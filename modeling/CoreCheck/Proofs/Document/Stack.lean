import CoreCheck.Proofs.Document.Fault

/-!
# Proofs/Document/Stack — decoding with one path for all

A decoder that walks a document with a stack of segments: it pushes a segment before it goes into a
part and pops it after, and it remembers the first violation with the path of that moment.  After a
violation it goes on, with placeholders for what it could not read.  Some loops stop then, others read
on; some segments are a key, some an index and some both.
-/

namespace CoreCheck.Ir

open CoreCheck.Document (Value Number Step field?)

/-! ## The decoder -/

/-- **A segment of the path**: a key, an item under a key, or an item of a list that has no key. -/
inductive Segment where
  | key (k : String)
  | item (k : String) (i : Nat)
  | index (i : Nat)

/-- The steps that a segment stands for. -/
def Segment.steps : Segment → List Step
  | .key k => [.key k]
  | .item k i => [.key k, .index i]
  | .index i => [.index i]

/-- **The state of a decoder**: the input's name, the segments down to the value at hand, and the
first violation. -/
structure Decoder where
  source : String
  stack : List Segment := []
  error : Option ContractError := none

/-- The place that a decoder has reached. -/
def Decoder.place (d : Decoder) : Place := ⟨d.source, d.stack.flatMap Segment.steps⟩

/-- What a decoder does. -/
abbrev Decode (α : Type) := StateM Decoder α

namespace Decode

variable {α : Type}

/-- Remembers a violation, unless there was one before. -/
def fail (violation : Violation) : Decode Unit :=
  modify fun d =>
    if d.error.isSome then d else { d with error := some ⟨d.source, d.place.path, violation⟩ }

/-- A violation, and a placeholder for what could not be read. -/
def refuse [Inhabited α] (violation : Violation) : Decode α := do
  fail violation
  return default

/-- Pushes a segment. -/
def enter (s : Segment) : Decode Unit := modify fun d => { d with stack := d.stack ++ [s] }

/-- Pops a segment. -/
def leave : Decode Unit := modify fun d => { d with stack := d.stack.dropLast }

/-- Decodes a part below a segment. -/
def inside (s : Segment) (x : Decode α) : Decode α := do
  enter s
  let a ← x
  leave
  return a

/-- Decodes items in order, each below its segment. Some loops stop at a violation, others go on. -/
def eachItem (stops : Bool) (seg : Nat → Segment) : Nat → List (Decode α) → Decode (List α)
  | _, [] => return []
  | i, x :: rest => do
    let a ← inside (seg i) x
    if stops && (← get).error.isSome then
      return [a]
    else
      let as ← eachItem stops seg (i + 1) rest
      return a :: as

end Decode

/-- **How a value decodes** in each position. -/
structure Decoding where
  type : Decode TypeExpr
  expr : Decode Expr
  pattern : Decode Pattern
  stmt : Decode Stmt
  block : Decode (List Stmt)
  typedName : Decode TypedName
  init : Decode Init
  case : Decode Case
  /-- How the items decode, when the value is a list. -/
  items : List Decoding

/-- The fields of an object, each with its value and how that decodes. -/
abbrev Entries := List (String × Value × Decoding)

instance : Inhabited Init := ⟨.mk {} "" default⟩
instance : Inhabited Case := ⟨.mk {} default []⟩

/-- The fields of a value that is an object. -/
def decodeObject (v : Value) : Decode (Option (List (String × Value))) :=
  match plainFields? v with
  | some fields => return some fields
  | none => Decode.refuse (.notObject v.kindName)

/-! ## Fields of one object -/

namespace Entries

open Decode

variable {α : Type}

/-- The value of a key. A null value counts as absent. -/
def get? (o : Entries) (key : String) : Option (Value × Decoding) :=
  match o.lookup key with
  | some (v, r) => if v.isNull then none else some (v, r)
  | none => none

/-- A required text. -/
def text (o : Entries) (key : String) : Decode String :=
  match o.get? key with
  | none => refuse (.missing key)
  | some (.text s, _) => return s
  | some (v, _) => refuse (.notText key v.kindName)

/-- A text that may be left out. -/
def text? (o : Entries) (key : String) : Decode (Option String) :=
  match o.get? key with
  | none => return none
  | some (.text s, _) => return some s
  | some (v, _) => refuse (.notText key v.kindName)

/-- A required text that is not blank. -/
def name (o : Entries) (key : String) : Decode String := do
  let s ← o.text key
  if Text.isBlankText s then refuse (.blankName key) else return s

/-- The list under a key, empty if there is none. -/
def list (o : Entries) (key : String) (required : Bool) : Decode (List Value × List Decoding) :=
  match o.get? key with
  | none => if required then refuse (.missing key) else return ([], [])
  | some (.array vs, r) => return (vs, r.items)
  | some (v, _) => refuse (.notArray key v.kindName)

/-- The items of a list that may be left out. -/
def each (o : Entries) (key : String) (read : Decoding → Decode α) : Decode (List α) := do
  let found ← o.list key false
  eachItem false (.item key) 0 (found.2.map read)

/-- The items of a required list. -/
def eachRequired (o : Entries) (key : String) (read : Decoding → Decode α) : Decode (List α) := do
  let found ← o.list key true
  eachItem false (.item key) 0 (found.2.map read)

/-- Items that all have to be texts. The first that is none ends the list. -/
def textItems (key : String) : Nat → List Value → Decode (List String)
  | _, [] => return []
  | i, .text s :: rest => do
    let ss ← textItems key (i + 1) rest
    return s :: ss
  | i, v :: _ => inside (.item key i) (refuse (.itemNotText v.kindName))

/-- A list of texts that may be left out. -/
def texts? (o : Entries) (key : String) : Decode (Option (List String)) := do
  let found ← o.list key false
  match o.get? key with
  | none => return none
  | some _ => return some (← textItems key 0 found.1)

/-- A required part. -/
def part [Inhabited α] (o : Entries) (key : String) (read : Decoding → Decode α) : Decode α :=
  match o.get? key with
  | none => refuse (.missing key)
  | some (_, r) => inside (.key key) (read r)

/-- A part that may be left out. -/
def part? (o : Entries) (key : String) (read : Decoding → Decode α) : Decode (Option α) :=
  match o.get? key with
  | none => return none
  | some (_, r) => return some (← inside (.key key) (read r))

end Entries

/-! ## Spans, literals and tags -/

namespace Decode

/-- A line or column. -/
def coord (fields : List (String × Value)) (key : String) : Decode Nat :=
  match plainField? fields key with
  | none => return 0
  | some v =>
    match wholeOf? v with
    | none => refuse (.notInteger key v.kindName)
    | some i => if 0 ≤ i ∧ i < 4294967296 then return i.toNat else refuse (.outOfRange key i)

/-- A position. -/
def position (fields : List (String × Value)) (key : String) : Decode Position :=
  match plainField? fields key with
  | none => return {}
  | some v => inside (.key key) do
    match ← decodeObject v with
    | none => return {}
    | some fs =>
      let line ← coord fs "line"
      let col ← coord fs "col"
      return ⟨line, col⟩

/-- The file of a span, empty if there is none. -/
def file (fields : List (String × Value)) : Decode String :=
  match plainField? fields "file" with
  | none => return ""
  | some (.text s) => return s
  | some w => refuse (.notText "file" w.kindName)

end Decode

namespace Entries

open Decode

/-- The span of a node. -/
def span (o : Entries) : Decode Span :=
  match o.get? "span" with
  | none => return {}
  | some (v, _) => inside (.key "span") do
    match ← decodeObject v with
    | none => return {}
    | some fields =>
      let file ← file fields
      let d ← get
      let start ← position fields "start"
      let stop ← position fields "end"
      return ⟨if file = "" then d.source else file, start, stop⟩

/-- The literal of a node of a given literal kind. -/
def literal (o : Entries) (kind : String) : Decode Literal :=
  if kind = "null" then return .null
  else
    match o.get? "value" with
    | none => refuse (.missing "value")
    | some (v, _) =>
      match kind with
      | "int" | "long" =>
        match wholeOf? v with
        | none => refuse (.literalNotInteger kind v.kindName)
        | some i => return if kind = "int" then .int i else .long i
      | "double" =>
        match doubleOf? v with
        | none => refuse (.literalNotNumber v.kindName)
        | some x => return .double x
      | "string" =>
        match v with
        | .text s => return .text s
        | _ => refuse (.literalNotText v.kindName)
      | _ =>
        match v with
        | .bool b => return .bool b
        | _ => refuse (.literalNotBool v.kindName)

/-- An effect tag that may be left out. -/
def effect? (o : Entries) : Decode (Option Effect) := do
  match ← o.text? "effect" with
  | none => return none
  | some label =>
    match Effect.parse label with
    | .ok e => return some e
    | .error cause => refuse (.effect cause)

/-- A capability tag that may be left out. -/
def capability? (o : Entries) : Decode (Option Capability) := do
  match ← o.text? "capability" with
  | none => return none
  | some label =>
    match Capability.parse label with
    | .ok c => return some c
    | .error cause => refuse (.capability cause)

/-- A sensitivity level. -/
def level (o : Entries) : Decode Level :=
  match o.get? "level" with
  | none => refuse (.missing "level")
  | some (v, _) =>
    match levelLabel? v with
    | none => refuse (.notLevel v.kindName)
    | some l =>
      match Level.parse l with
      | .ok level => return level
      | .error cause => refuse (.level cause)

/-! ## Nodes -/

/-- A type written as an object. -/
def type (o : Entries) : Decode TypeExpr := do
  let kind ← o.text "kind"
  let s ← o.span
  match kind with
  | "name" => return .name s (← o.name "name")
  | "var" => return .var s (← o.name "name")
  | "optional" => return .optional s (← o.part "type" (·.type))
  | "list" => return .list s (← o.part "type" (·.type))
  | "map" => return .map s (← o.part "key" (·.type)) (← o.part "value" (·.type))
  | "result" => return .result s (← o.part "ok" (·.type)) (← o.part "err" (·.type))
  | "func" => return .func s (← o.each "params" (·.type)) (← o.part? "ret" (·.type))
  | "pii" =>
    let elem ← o.part "type" (·.type)
    let level ← o.level
    let category ← o.text? "category"
    return .pii s elem level (category.getD "")
  | _ => refuse (.unknownType kind)

/-- A call. -/
def call (o : Entries) (s : Span) : Decode Expr := do
  let target ← o.name "target"
  let args ← o.each "args" (·.expr)
  let effect ← o.effect?
  let capability ← o.capability?
  return .call s target args effect capability

/-- An expression. -/
def expr (o : Entries) : Decode Expr := do
  let kind ← o.text "kind"
  let s ← o.span
  if isLiteralKind kind then return .literal s (← o.literal kind)
  match kind with
  | "name" => return .name s (← o.name "name")
  | "binary" => return .binary s (← o.name "op") (← o.part "left" (·.expr)) (← o.part "right" (·.expr))
  | "unary" => return .unary s (← o.name "op") (← o.part "operand" (·.expr))
  | "call" => o.call s
  | "construct" => return .construct s (← o.name "type") (← o.each "fields" (·.init))
  | "member" => return .member s (← o.part "expr" (·.expr)) (← o.name "field")
  | "some" => return .wrap s .some (← o.part "expr" (·.expr))
  | "ok" => return .wrap s .ok (← o.part "expr" (·.expr))
  | "err" => return .wrap s .err (← o.part "expr" (·.expr))
  | "none" => return .none s
  | "list" => return .list s (← o.each "items" (·.expr))
  | "await" => return .await s (← o.part "expr" (·.expr))
  | _ => refuse (.unknownExpr kind)

/-- A field initialiser. -/
def init (o : Entries) : Decode Init := do
  return .mk (← o.span) (← o.name "name") (← o.part "expr" (·.expr))

/-- A parameter or a data field. -/
def typedName (o : Entries) : Decode TypedName := do
  return ⟨← o.span, ← o.name "name", ← o.part "type" (·.type)⟩

/-- A pattern. -/
def pattern (o : Entries) : Decode Pattern := do
  let kind ← o.text "kind"
  let s ← o.span
  if isLiteralKind kind then return .literal s (.literal s (← o.literal kind))
  match kind with
  | "wildcard" | "_" => return .wildcard s
  | "name" => return .name s (← o.name "name")
  | "literal" => return .literal s (← o.part "value" (·.expr))
  | "none" => return .none s
  | "some" => return .wrap s .some (← o.part "pattern" (·.pattern))
  | "ok" => return .wrap s .ok (← o.part "pattern" (·.pattern))
  | "err" => return .wrap s .err (← o.part "pattern" (·.pattern))
  | "ctor" => return .ctor s (← o.name "type") (← o.each "args" (·.pattern))
  | _ => refuse (.unknownPattern kind)

/-- A case of a match. -/
def case (o : Entries) : Decode Case := do
  return .mk (← o.span) (← o.part "pattern" (·.pattern)) (← o.part "body" (·.block))

/-- A statement. -/
def stmt (o : Entries) : Decode Stmt := do
  let kind ← o.text "kind"
  let s ← o.span
  match kind with
  | "let" => return .bind s (← o.name "name") (← o.part? "type" (·.type)) (← o.part "expr" (·.expr))
  | "set" => return .set s (← o.name "name") (← o.part "expr" (·.expr))
  | "return" => return .ret s (← o.part? "expr" (·.expr))
  | "expr" => return .eval s (← o.part "expr" (·.expr))
  | "if" =>
    return .branch s (← o.part "cond" (·.expr)) (← o.part "then" (·.block))
      (← o.part? "else" (·.block))
  | "match" => return .select s (← o.part "expr" (·.expr)) (← o.eachRequired "cases" (·.case))
  | "scope" | "block" => return .scope s (← o.part "body" (·.block))
  | "start" => return .start s (← o.name "name") (← o.part "expr" (·.expr))
  | "wait" =>
    match ← o.texts? "names" with
    | none => refuse (.missing "names")
    | some names => return .wait s names
  | _ => refuse (.unknownStmt kind)

/-- A block written as an object. -/
def block (o : Entries) : Decode (List Stmt) := do
  let found ← o.list "statements" true
  inside (.key "statements") (eachItem true .index 0 (found.2.map (·.stmt)))

end Entries

namespace Decoding

open Decode

/-- How an object decodes. -/
def ofObject (o : Entries) : Decoding where
  type := o.type
  expr := o.expr
  pattern := o.pattern
  stmt := o.stmt
  block := o.block
  typedName := o.typedName
  init := o.init
  case := o.case
  items := []

/-- How a value decodes that is no object. -/
def ofOther (kind : String) : Decoding where
  type := refuse (.notObject kind)
  expr := refuse (.notObject kind)
  pattern := refuse (.notObject kind)
  stmt := refuse (.notObject kind)
  block := refuse (.notObject kind)
  typedName := refuse (.notObject kind)
  init := refuse (.notObject kind)
  case := refuse (.notObject kind)
  items := []

/-- How a list decodes: it may stand for a block. -/
def ofArray (items : List Decoding) : Decoding :=
  { ofOther "array" with
    block := eachItem true .index 0 (items.map (·.stmt))
    items := items }

/-- How a text decodes: it may stand for a type by its name. -/
def ofText (s : String) : Decoding :=
  { ofOther "string" with
    type := if s = "" then refuse .emptyTypeName else return .name {} s }

end Decoding

mutual
/-- **How a value decodes**, from how its parts decode. -/
def decoding : Value → Decoding
  | .object fields => .ofObject (entries fields)
  | .array items => .ofArray (decodings items)
  | .text s => .ofText s
  | .null => .ofOther "null"
  | .bool _ => .ofOther "bool"
  | .number _ | .bytes _ | .instant _ => .ofOther "number"
/-- How the items of a list decode. -/
def decodings : List Value → List Decoding
  | [] => []
  | v :: rest => decoding v :: decodings rest
/-- The fields of an object, with how they decode. -/
def entries : List (String × Value) → Entries
  | [] => []
  | (k, v) :: rest => (k, v, decoding v) :: entries rest
end

/-! ## Declarations -/

namespace Entries

open Decode

/-- The effect of a function. -/
def declaredEffect (o : Entries) : Decode Effect := do
  let labels ← o.texts? "effects"
  let single ← o.text? "effect"
  match Effect.ofLabels (labels.getD [] ++ single.toList) with
  | .ok e => return e
  | .error cause => refuse (.effect cause)

/-- Capability labels. The first unknown one ends the list. -/
def capabilities : Nat → List String → Decode (List Capability)
  | _, [] => return []
  | i, l :: rest =>
    match Capability.parse l with
    | .error cause => inside (.item "capabilities" i) (refuse (.capability cause))
    | .ok c => do
      let cs ← capabilities (i + 1) rest
      return c :: cs

/-- The capability list of a function, if there is one. -/
def declaredCapabilities (o : Entries) : Decode (Option (List Capability)) := do
  match ← o.texts? "capabilities" with
  | none => return none
  | some labels => return some (← capabilities 0 labels)

/-- A function declaration. -/
def func (o : Entries) (s : Span) : Decode Func := do
  let name ← o.name "name"
  let typeParams ← o.texts? "typeParams"
  let params ← o.each "params" (·.typedName)
  let ret ← o.part? "ret" (·.type)
  let effect ← o.declaredEffect
  let capabilities ← o.declaredCapabilities
  let body ← o.part "body" (·.block)
  return ⟨s, name, typeParams.getD [], params, ret, effect, capabilities, body⟩

/-- A declaration written as an object. -/
def decl (o : Entries) : Decode Decl := do
  let kind ← o.text "kind"
  let s ← o.span
  match kind with
  | "func" | "fn" | "function" => return .func (← o.func s)
  | "data" => return .data s (← o.name "name") (← o.each "fields" (·.typedName))
  | "enum" =>
    let name ← o.name "name"
    let variants ← o.texts? "variants"
    return .enum s name (variants.getD [])
  | "alias" | "type" => return .alias s (← o.name "name") (← o.part "type" (·.type))
  | "import" => return .imported s (← o.name "name")
  | _ => refuse (.unknownDecl kind)

/-- Whether the version of a document is the supported one. -/
def supported (o : Entries) : Decode Bool :=
  match o.get? "version" with
  | none => return true
  | some (v, _) =>
    if wholeOf? v = some (supportedVersion : Int) then return true else refuse (.version v.message)

end Entries

namespace Decode

/-- A declaration. -/
def decl (v : Value) : Decode Decl := do
  match ← decodeObject v with
  | none => return default
  | some fields => (entries fields).decl

/-- A document. Of another version nothing is decoded. -/
def module (v : Value) : Decode Module := do
  match ← decodeObject v with
  | none => return default
  | some fields =>
    let o := entries fields
    if ← o.supported then
      let name ← o.name "name"
      let key := if !(field? fields "decls").isSome && (field? fields "declarations").isSome then
        "declarations" else "decls"
      let found ← o.list key true
      let decls ← eachItem true (.item key) 0 (found.1.map decl)
      let d ← get
      return ⟨supportedVersion, name, d.source, decls⟩
    else
      return default

end Decode

/-- **The module of a document, or its first violation**, by one walk from the root. -/
def decoded (source : String) (v : Value) : Except ContractError Module :=
  match (Decode.module v { source }).2.error with
  | none => .ok (Decode.module v { source }).1
  | some e => .error e

end CoreCheck.Ir
