import CoreCheck.Ir.Contract
import CoreCheck.Ir.Syntax
import CoreCheck.Text.Blank

/-!
# Ir/Reading — from documents to modules

How a value reads depends on the position it stands in: the same object may be asked for a type, an
expression, a pattern or a statement. `Reading` holds the answers for all positions, and
`reading` computes it for a value from the readings of its parts. Every function on `Fields` is
therefore a plain case distinction over the fields of one object; the only recursion is the one
over the tree.
-/

namespace CoreCheck.Ir

open CoreCheck.Document (Value Number)

/-- Reading at a place, with the first violation as failure. -/
abbrev Read (α : Type) := Place → Except ContractError α

/-- **How a value reads** in each position. -/
structure Reading where
  type : Read TypeExpr
  expr : Read Expr
  pattern : Read Pattern
  stmt : Read Stmt
  block : Read (List Stmt)
  typedName : Read TypedName
  init : Read Init
  case : Read Case
  /-- The readings of the items, when the value is a list. -/
  items : List Reading

/-- The fields of an object, each with its value and its reading. -/
abbrev Fields := List (String × Value × Reading)

namespace Fields

/-- The value of a key. A null value counts as absent. -/
def get? (o : Fields) (key : String) : Option (Value × Reading) :=
  match o.lookup key with
  | some (v, r) => if v.isNull then none else some (v, r)
  | none => none

/-- Whether a key is there, whatever its value. -/
def has (o : Fields) (key : String) : Bool := (o.lookup key).isSome

/-- A required text. -/
def text (o : Fields) (p : Place) (key : String) : Except ContractError String :=
  match o.get? key with
  | none => p.fail (.missing key)
  | some (.text s, _) => .ok s
  | some (v, _) => p.fail (.notText key v.kindName)

/-- A text that may be left out. -/
def text? (o : Fields) (p : Place) (key : String) : Except ContractError (Option String) :=
  match o.get? key with
  | none => .ok none
  | some (.text s, _) => .ok (some s)
  | some (v, _) => p.fail (.notText key v.kindName)

/-- A required text that is not blank. -/
def name (o : Fields) (p : Place) (key : String) : Except ContractError String := do
  let s ← o.text p key
  if Text.isBlankText s then p.fail (.blankName key) else return s

/-- The list under a key, if the key is there. -/
def list? (o : Fields) (p : Place) (key : String) :
    Except ContractError (Option (List Value × List Reading)) :=
  match o.get? key with
  | none => .ok none
  | some (.array vs, r) => .ok (some (vs, r.items))
  | some (v, _) => p.fail (.notArray key v.kindName)

/-- Reads items in order, each at its index. -/
def readItems {α : Type} (read : Reading → Read α) (p : Place) :
    Nat → List Reading → Except ContractError (List α)
  | _, [] => .ok []
  | i, r :: rest => do
    let x ← read r (p.index i)
    let xs ← readItems read p (i + 1) rest
    return x :: xs

/-- Reads the items of a list that may be left out. -/
def each {α : Type} (o : Fields) (p : Place) (key : String) (read : Reading → Read α) :
    Except ContractError (List α) := do
  match ← o.list? p key with
  | none => return []
  | some (_, rs) => readItems read (p.key key) 0 rs

/-- Reads the items of a required list. -/
def eachRequired {α : Type} (o : Fields) (p : Place) (key : String) (read : Reading → Read α) :
    Except ContractError (List α) := do
  match ← o.list? p key with
  | none => p.fail (.missing key)
  | some (_, rs) => readItems read (p.key key) 0 rs

/-- Reads items that all have to be texts. -/
def textItems (p : Place) : Nat → List Value → Except ContractError (List String)
  | _, [] => .ok []
  | i, .text s :: rest => do
    let ss ← textItems p (i + 1) rest
    return s :: ss
  | i, v :: _ => (p.index i).fail (.itemNotText v.kindName)

/-- A list of texts that may be left out. -/
def texts? (o : Fields) (p : Place) (key : String) :
    Except ContractError (Option (List String)) := do
  match ← o.list? p key with
  | none => return none
  | some (vs, _) => return some (← textItems (p.key key) 0 vs)

/-- A required part. -/
def part {α : Type} (o : Fields) (p : Place) (key : String) (read : Reading → Read α) :
    Except ContractError α :=
  match o.get? key with
  | none => p.fail (.missing key)
  | some (_, r) => read r (p.key key)

/-- A part that may be left out. -/
def part? {α : Type} (o : Fields) (p : Place) (key : String) (read : Reading → Read α) :
    Except ContractError (Option α) :=
  match o.get? key with
  | none => .ok none
  | some (_, r) => some <$> read r (p.key key)

end Fields

/-! ## Spans -/

/-- Fields of an object that is read without its parts, as spans are. -/
def plainFields? (v : Value) : Option (List (String × Value)) :=
  match v with
  | .object fields => some fields
  | _ => none

/-- The value of a key of such an object. A null value counts as absent. -/
def plainField? (fields : List (String × Value)) (key : String) : Option Value :=
  (Document.field? fields key).filter (!·.isNull)

/-- A line or column: an integer of 32 bits, zero when left out. -/
def readCoord (fields : List (String × Value)) (p : Place) (key : String) :
    Except ContractError Nat :=
  match plainField? fields key with
  | none => .ok 0
  | some v =>
    let int := match v with
      | .number n => n.toInt?
      | _ => none
    match int with
    | none => p.fail (.notInteger key v.kindName)
    | some i => if 0 ≤ i ∧ i < 4294967296 then .ok i.toNat else p.fail (.outOfRange key i)

/-- A position, zero when left out. -/
def readPosition (fields : List (String × Value)) (p : Place) (key : String) :
    Except ContractError Position :=
  match plainField? fields key with
  | none => .ok {}
  | some v =>
    match plainFields? v with
    | none => (p.key key).fail (.notObject v.kindName)
    | some fs => do
      let line ← readCoord fs (p.key key) "line"
      let col ← readCoord fs (p.key key) "col"
      return ⟨line, col⟩

/-- The span of a node. A span without a file belongs to the input itself. -/
def Fields.span (o : Fields) (p : Place) : Except ContractError Span :=
  match o.get? "span" with
  | none => .ok {}
  | some (v, _) =>
    let p := p.key "span"
    match plainFields? v with
    | none => p.fail (.notObject v.kindName)
    | some fields => do
      let file ← match plainField? fields "file" with
        | none => pure ""
        | some (.text s) => pure s
        | some w => p.fail (.notText "file" w.kindName)
      let start ← readPosition fields p "start"
      let stop ← readPosition fields p "end"
      return ⟨if file = "" then p.source else file, start, stop⟩

/-! ## Literals and tags -/

/-- The literal of a node of a given literal kind. -/
def Fields.literal (o : Fields) (p : Place) (kind : String) : Except ContractError Literal :=
  if kind = "null" then .ok .null
  else
    match o.get? "value" with
    | none => p.fail (.missing "value")
    | some (v, _) =>
      match kind with
      | "int" | "long" =>
        let int := match v with
          | .number n => n.toInt?
          | _ => none
        match int with
        | none => p.fail (.literalNotInteger kind v.kindName)
        | some i => .ok (if kind = "int" then .int i else .long i)
      | "double" =>
        let double := match v with
          | .number n => n.toDouble?
          | _ => none
        match double with
        | none => p.fail (.literalNotNumber v.kindName)
        | some x => .ok (.double x)
      | "string" =>
        match v with
        | .text s => .ok (.text s)
        | _ => p.fail (.literalNotText v.kindName)
      | _ =>
        match v with
        | .bool b => .ok (.bool b)
        | _ => p.fail (.literalNotBool v.kindName)

/-- Whether a node kind is that of a literal. -/
def isLiteralKind (kind : String) : Bool :=
  ["int", "long", "double", "string", "bool", "null"].contains kind

/-- An effect tag that may be left out. -/
def Fields.effect? (o : Fields) (p : Place) : Except ContractError (Option Effect) := do
  match ← o.text? p "effect" with
  | none => return none
  | some label =>
    match Effect.parse label with
    | .ok e => return some e
    | .error cause => p.fail (.effect cause)

/-- A capability tag that may be left out. -/
def Fields.capability? (o : Fields) (p : Place) : Except ContractError (Option Capability) := do
  match ← o.text? p "capability" with
  | none => return none
  | some label =>
    match Capability.parse label with
    | .ok c => return some c
    | .error cause => p.fail (.capability cause)

/-- A sensitivity level, by its label or its number. -/
def Fields.level (o : Fields) (p : Place) : Except ContractError Level :=
  match o.get? "level" with
  | none => p.fail (.missing "level")
  | some (v, _) =>
    let label := match v with
      | .text s => some s
      | .number n => n.toInt?.map intText
      | _ => none
    match label with
    | none => p.fail (.notLevel v.kindName)
    | some l =>
      match Level.parse l with
      | .ok level => .ok level
      | .error cause => p.fail (.level cause)

/-! ## Nodes -/

namespace Fields

/-- A type written as an object. -/
def type (o : Fields) (p : Place) : Except ContractError TypeExpr := do
  let kind ← o.text p "kind"
  let s ← o.span p
  match kind with
  | "name" => return .name s (← o.name p "name")
  | "var" => return .var s (← o.name p "name")
  | "optional" => return .optional s (← o.part p "type" (·.type))
  | "list" => return .list s (← o.part p "type" (·.type))
  | "map" => return .map s (← o.part p "key" (·.type)) (← o.part p "value" (·.type))
  | "result" => return .result s (← o.part p "ok" (·.type)) (← o.part p "err" (·.type))
  | "func" => return .func s (← o.each p "params" (·.type)) (← o.part? p "ret" (·.type))
  | "pii" =>
    let elem ← o.part p "type" (·.type)
    let level ← o.level p
    let category ← o.text? p "category"
    return .pii s elem level (category.getD "")
  | _ => p.fail (.unknownType kind)

/-- An expression. -/
def expr (o : Fields) (p : Place) : Except ContractError Expr := do
  let kind ← o.text p "kind"
  let s ← o.span p
  if isLiteralKind kind then return .literal s (← o.literal p kind)
  match kind with
  | "name" => return .name s (← o.name p "name")
  | "binary" =>
    return .binary s (← o.name p "op") (← o.part p "left" (·.expr)) (← o.part p "right" (·.expr))
  | "unary" => return .unary s (← o.name p "op") (← o.part p "operand" (·.expr))
  | "call" =>
    let target ← o.name p "target"
    let args ← o.each p "args" (·.expr)
    let effect ← o.effect? p
    let capability ← o.capability? p
    return .call s target args effect capability
  | "construct" => return .construct s (← o.name p "type") (← o.each p "fields" (·.init))
  | "member" => return .member s (← o.part p "expr" (·.expr)) (← o.name p "field")
  | "some" => return .wrap s .some (← o.part p "expr" (·.expr))
  | "ok" => return .wrap s .ok (← o.part p "expr" (·.expr))
  | "err" => return .wrap s .err (← o.part p "expr" (·.expr))
  | "none" => return .none s
  | "list" => return .list s (← o.each p "items" (·.expr))
  | "await" => return .await s (← o.part p "expr" (·.expr))
  | _ => p.fail (.unknownExpr kind)

/-- A field initialiser. -/
def init (o : Fields) (p : Place) : Except ContractError Init := do
  return .mk (← o.span p) (← o.name p "name") (← o.part p "expr" (·.expr))

/-- A parameter or a data field. -/
def typedName (o : Fields) (p : Place) : Except ContractError TypedName := do
  return ⟨← o.span p, ← o.name p "name", ← o.part p "type" (·.type)⟩

/-- A pattern. -/
def pattern (o : Fields) (p : Place) : Except ContractError Pattern := do
  let kind ← o.text p "kind"
  let s ← o.span p
  if isLiteralKind kind then return .literal s (.literal s (← o.literal p kind))
  match kind with
  | "wildcard" | "_" => return .wildcard s
  | "name" => return .name s (← o.name p "name")
  | "literal" => return .literal s (← o.part p "value" (·.expr))
  | "none" => return .none s
  | "some" => return .wrap s .some (← o.part p "pattern" (·.pattern))
  | "ok" => return .wrap s .ok (← o.part p "pattern" (·.pattern))
  | "err" => return .wrap s .err (← o.part p "pattern" (·.pattern))
  | "ctor" => return .ctor s (← o.name p "type") (← o.each p "args" (·.pattern))
  | _ => p.fail (.unknownPattern kind)

/-- A case of a match. -/
def case (o : Fields) (p : Place) : Except ContractError Case := do
  return .mk (← o.span p) (← o.part p "pattern" (·.pattern)) (← o.part p "body" (·.block))

/-- A statement. -/
def stmt (o : Fields) (p : Place) : Except ContractError Stmt := do
  let kind ← o.text p "kind"
  let s ← o.span p
  match kind with
  | "let" =>
    return .bind s (← o.name p "name") (← o.part? p "type" (·.type)) (← o.part p "expr" (·.expr))
  | "set" => return .set s (← o.name p "name") (← o.part p "expr" (·.expr))
  | "return" => return .ret s (← o.part? p "expr" (·.expr))
  | "expr" => return .eval s (← o.part p "expr" (·.expr))
  | "if" =>
    return .branch s (← o.part p "cond" (·.expr)) (← o.part p "then" (·.block))
      (← o.part? p "else" (·.block))
  | "match" => return .select s (← o.part p "expr" (·.expr)) (← o.eachRequired p "cases" (·.case))
  | "scope" | "block" => return .scope s (← o.part p "body" (·.block))
  | "start" => return .start s (← o.name p "name") (← o.part p "expr" (·.expr))
  | "wait" =>
    match ← o.texts? p "names" with
    | none => p.fail (.missing "names")
    | some names => return .wait s names
  | _ => p.fail (.unknownStmt kind)

/-- A block written as an object. -/
def block (o : Fields) (p : Place) : Except ContractError (List Stmt) :=
  o.eachRequired p "statements" (·.stmt)

end Fields

namespace Reading

/-- The reading of an object. -/
def ofObject (o : Fields) : Reading where
  type := o.type
  expr := o.expr
  pattern := o.pattern
  stmt := o.stmt
  block := o.block
  typedName := o.typedName
  init := o.init
  case := o.case
  items := []

/-- The reading of a value that is no object: it stands in no position that asks for one. -/
def ofOther (kind : String) : Reading where
  type p := p.fail (.notObject kind)
  expr p := p.fail (.notObject kind)
  pattern p := p.fail (.notObject kind)
  stmt p := p.fail (.notObject kind)
  block p := p.fail (.notObject kind)
  typedName p := p.fail (.notObject kind)
  init p := p.fail (.notObject kind)
  case p := p.fail (.notObject kind)
  items := []

/-- The reading of a list: it may stand for a block. -/
def ofArray (items : List Reading) : Reading :=
  { ofOther "array" with
    block := fun p => Fields.readItems (·.stmt) p 0 items
    items := items }

/-- The reading of a text: it may stand for a type by its name. -/
def ofText (s : String) : Reading :=
  { ofOther "string" with
    type := fun p => if s = "" then p.fail .emptyTypeName else .ok (.name {} s) }

end Reading

mutual
/-- **The reading of a value**, from the readings of its parts. -/
def reading : Value → Reading
  | .object fields => .ofObject (readFields fields)
  | .array items => .ofArray (readValues items)
  | .text s => .ofText s
  | .null => .ofOther "null"
  | .bool _ => .ofOther "bool"
  | .number _ | .bytes _ | .instant _ => .ofOther "number"
/-- The readings of the items of a list. -/
def readValues : List Value → List Reading
  | [] => []
  | v :: rest => reading v :: readValues rest
/-- The fields of an object with their readings. -/
def readFields : List (String × Value) → Fields
  | [] => []
  | (k, v) :: rest => (k, v, reading v) :: readFields rest
end

/-! ## Declarations -/

namespace Fields

/-- The effect of a function: the join of all its labels. -/
def declaredEffect (o : Fields) (p : Place) : Except ContractError Effect := do
  let labels ← o.texts? p "effects"
  let single ← o.text? p "effect"
  match Effect.ofLabels (labels.getD [] ++ single.toList) with
  | .ok e => return e
  | .error cause => p.fail (.effect cause)

/-- Reads capability labels, each at its index. -/
def readCapabilities (p : Place) : Nat → List String → Except ContractError (List Capability)
  | _, [] => .ok []
  | i, l :: rest =>
    match Capability.parse l with
    | .error cause => (p.index i).fail (.capability cause)
    | .ok c => do
      let cs ← readCapabilities p (i + 1) rest
      return c :: cs

/-- The capability list of a function, if there is one. -/
def declaredCapabilities (o : Fields) (p : Place) :
    Except ContractError (Option (List Capability)) := do
  match ← o.texts? p "capabilities" with
  | none => return none
  | some labels => return some (← readCapabilities (p.key "capabilities") 0 labels)

/-- A function declaration. -/
def func (o : Fields) (p : Place) (s : Span) : Except ContractError Func := do
  let name ← o.name p "name"
  let typeParams ← o.texts? p "typeParams"
  let params ← o.each p "params" (·.typedName)
  let ret ← o.part? p "ret" (·.type)
  let effect ← o.declaredEffect p
  let capabilities ← o.declaredCapabilities p
  let body ← o.part p "body" (·.block)
  return ⟨s, name, typeParams.getD [], params, ret, effect, capabilities, body⟩

/-- A declaration. -/
def decl (o : Fields) (p : Place) : Except ContractError Decl := do
  let kind ← o.text p "kind"
  let s ← o.span p
  match kind with
  | "func" | "fn" | "function" => return .func (← o.func p s)
  | "data" => return .data s (← o.name p "name") (← o.each p "fields" (·.typedName))
  | "enum" =>
    let name ← o.name p "name"
    let variants ← o.texts? p "variants"
    return .enum s name (variants.getD [])
  | "alias" | "type" => return .alias s (← o.name p "name") (← o.part p "type" (·.type))
  | "import" => return .imported s (← o.name p "name")
  | _ => p.fail (.unknownDecl kind)

end Fields

/-- A declaration from its value. -/
def readDecl (v : Value) (p : Place) : Except ContractError Decl :=
  match v with
  | .object fields => (readFields fields).decl p
  | v => p.fail (.notObject v.kindName)

/-- Reads declarations in order, each at its index. -/
def readDecls (p : Place) : Nat → List Value → Except ContractError (List Decl)
  | _, [] => .ok []
  | i, v :: rest => do
    let d ← readDecl v (p.index i)
    let ds ← readDecls p (i + 1) rest
    return d :: ds

/-- Refuses a document of another version. A document without a version has the supported one. -/
def checkVersion (o : Fields) (p : Place) : Except ContractError Unit :=
  match o.get? "version" with
  | none => .ok ()
  | some (v, _) =>
    let int := match v with
      | .number n => n.toInt?
      | _ => none
    if int = some (supportedVersion : Int) then .ok () else p.fail (.version v.message)

/-- **The module that a document holds.** -/
def Module.ofDocument (source : String) (v : Value) : Except ContractError Module := do
  let p : Place := { source }
  match v with
  | .object fields =>
    let o := readFields fields
    checkVersion o p
    let name ← o.name p "name"
    let key := if !o.has "decls" && o.has "declarations" then "declarations" else "decls"
    match ← o.list? p key with
    | none => p.fail (.missing key)
    | some (items, _) =>
      let decls ← readDecls (p.key key) 0 items
      return ⟨supportedVersion, name, source, decls⟩
  | v => p.fail (.notObject v.kindName)

end CoreCheck.Ir
