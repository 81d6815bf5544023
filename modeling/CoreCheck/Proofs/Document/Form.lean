import Mathlib.Algebra.Ring.Nat
import Mathlib.Data.List.Forall2
import CoreCheck.Ir.Reading

/-!
# Proofs/Document/Form — the form of a document

The form of a document says, node by node, which value stands for which piece of syntax:
`IsType v t` for a written type, `IsExpr v e` for an expression, and so on up to `IsModule v m`.  A
node is an object with its kind; each of its parts stands under a key that is there and not null; the
items of a list are those of an array, one by one and in their order; names are not blank, levels have
a name, and lines and columns fit 32 bits.
-/

namespace CoreCheck

/-- Line and column fit 32 bits. -/
def Position.Fits (p : Position) : Prop := p.line < 2 ^ 32 ∧ p.col < 2 ^ 32

/-- **Both ends of a span fit 32 bits.** -/
def Span.Fits (s : Span) : Prop := s.start.Fits ∧ s.stop.Fits

/-- Whether a level has a name. -/
def Level.Named (l : Level) : Prop := l = .l1 ∨ l = .l2 ∨ l = .l3

namespace Ir

namespace Form

open CoreCheck.Document (Value)

/-! ## Parts of an object -/

section Parts

variable {α : Type}

/-- The items of an array, one by one and in their order. -/
inductive IsList (R : Value → α → Prop) : Value → List α → Prop where
  | array {vs xs} : List.Forall₂ R vs xs → IsList R (.array vs) xs

/-- **A part of an object**: the key is there, and its value is not null. -/
inductive Part (R : Value → α → Prop) : List (String × Value) → String → α → Prop where
  | given {v a key o} : plainField? o key = some v → R v a → Part R o key a

/-- A part that may be left out. -/
inductive PartOpt (R : Value → α → Prop) : List (String × Value) → String → Option α → Prop where
  | absent {key o} : plainField? o key = none → PartOpt R o key none
  | given {v a key o} : plainField? o key = some v → R v a → PartOpt R o key (some a)

/-- A list that may be left out, and then has no items. -/
inductive ListOpt (R : Value → α → Prop) : List (String × Value) → String → List α → Prop where
  | absent {key o} : plainField? o key = none → ListOpt R o key []
  | given {v xs key o} : plainField? o key = some v → IsList R v xs → ListOpt R o key xs

theorem IsList.exists_of_mem {R : Value → α → Prop} {v : Value} {xs : List α} (h : IsList R v xs) :
    ∀ x ∈ xs, ∃ w, R w x := by
  obtain ⟨hxs⟩ := h
  intro x hx
  induction hxs with
  | nil => exact nomatch hx
  | cons hw _ ih =>
    obtain rfl | hx := List.mem_cons.1 hx
    · exact ⟨_, hw⟩
    · exact ih hx

theorem ListOpt.exists_of_mem {R : Value → α → Prop} {o : List (String × Value)} {key : String}
    {xs : List α} (h : ListOpt R o key xs) : ∀ x ∈ xs, ∃ w, R w x := by
  cases h with
  | absent => exact fun _ hx => nomatch hx
  | given _ hxs => exact hxs.exists_of_mem

theorem PartOpt.exists_of_mem {R : Value → α → Prop} {o : List (String × Value)} {key : String}
    {a : Option α} (h : PartOpt R o key a) : ∀ x ∈ a, ∃ w, R w x := by
  cases h with
  | absent => exact fun _ hx => nomatch hx
  | given _ ha =>
    rintro _ ⟨⟩
    exact ⟨_, ha⟩

end Parts

/-- A text. -/
def IsText (v : Value) (s : String) : Prop := v = .text s

/-- **A name**: a text that is not blank. -/
def IsName (v : Value) (n : String) : Prop := v = .text n ∧ Text.isBlankText n = false

/-- The label of an effect. -/
def IsEffect (v : Value) (e : Effect) : Prop := ∃ l, v = .text l ∧ Effect.parse l = .ok e

/-- The label of a capability. -/
def IsCapability (v : Value) (c : Capability) : Prop :=
  ∃ l, v = .text l ∧ Capability.parse l = .ok c

/-- A node of a kind, at a span. -/
structure IsNode (o : List (String × Value)) (kind : String) (s : Span) : Prop where
  kind : plainField? o "kind" = some (.text kind)
  span : s.Fits

/-! ## Nodes -/

/-- **A written type.** A bare text stands for the type of that name. -/
inductive IsType : Value → TypeExpr → Prop where
  | short {n} : n ≠ "" → IsType (.text n) (.name {} n)
  | name {o s n} : IsNode o "name" s → Part IsName o "name" n → IsType (.object o) (.name s n)
  | var {o s n} : IsNode o "var" s → Part IsName o "name" n → IsType (.object o) (.var s n)
  | optional {o s t} : IsNode o "optional" s → Part IsType o "type" t →
      IsType (.object o) (.optional s t)
  | list {o s t} : IsNode o "list" s → Part IsType o "type" t → IsType (.object o) (.list s t)
  | map {o s k t} : IsNode o "map" s → Part IsType o "key" k → Part IsType o "value" t →
      IsType (.object o) (.map s k t)
  | result {o s t u} : IsNode o "result" s → Part IsType o "ok" t → Part IsType o "err" u →
      IsType (.object o) (.result s t u)
  | func {o s ps ret} : IsNode o "func" s → ListOpt IsType o "params" ps →
      PartOpt IsType o "ret" ret → IsType (.object o) (.func s ps ret)
  | pii {o s t level category} : IsNode o "pii" s → Part IsType o "type" t → level.Named →
      PartOpt IsText o "category" category → IsType (.object o) (.pii s t level (category.getD ""))

/-- **The constant of a node** of a literal kind. -/
inductive IsLiteral : List (String × Value) → String → Literal → Prop where
  | null {o} : IsLiteral o "null" .null
  | int {o n i} : plainField? o "value" = some (.number n) → n.toInt? = some i →
      IsLiteral o "int" (.int i)
  | long {o n i} : plainField? o "value" = some (.number n) → n.toInt? = some i →
      IsLiteral o "long" (.long i)
  | double {o n x} : plainField? o "value" = some (.number n) → n.toDouble? = some x →
      IsLiteral o "double" (.double x)
  | text {o s} : plainField? o "value" = some (.text s) → IsLiteral o "string" (.text s)
  | bool {o b} : plainField? o "value" = some (.bool b) → IsLiteral o "bool" (.bool b)

mutual
/-- **An expression.** -/
inductive IsExpr : Value → Expr → Prop where
  | literal {o kind s l} : IsNode o kind s → IsLiteral o kind l → IsExpr (.object o) (.literal s l)
  | name {o s n} : IsNode o "name" s → Part IsName o "name" n → IsExpr (.object o) (.name s n)
  | binary {o s op l r} : IsNode o "binary" s → Part IsName o "op" op → Part IsExpr o "left" l →
      Part IsExpr o "right" r → IsExpr (.object o) (.binary s op l r)
  | unary {o s op e} : IsNode o "unary" s → Part IsName o "op" op → Part IsExpr o "operand" e →
      IsExpr (.object o) (.unary s op e)
  | call {o s target args effect capability} : IsNode o "call" s → Part IsName o "target" target →
      ListOpt IsExpr o "args" args → PartOpt IsEffect o "effect" effect →
      PartOpt IsCapability o "capability" capability →
      IsExpr (.object o) (.call s target args effect capability)
  | construct {o s type fields} : IsNode o "construct" s → Part IsName o "type" type →
      ListOpt IsInit o "fields" fields → IsExpr (.object o) (.construct s type fields)
  | member {o s e field} : IsNode o "member" s → Part IsExpr o "expr" e →
      Part IsName o "field" field → IsExpr (.object o) (.member s e field)
  | wrap {o s k e} : IsNode o k.label s → Part IsExpr o "expr" e → IsExpr (.object o) (.wrap s k e)
  | none {o s} : IsNode o "none" s → IsExpr (.object o) (.none s)
  | list {o s items} : IsNode o "list" s → ListOpt IsExpr o "items" items →
      IsExpr (.object o) (.list s items)
  | await {o s e} : IsNode o "await" s → Part IsExpr o "expr" e → IsExpr (.object o) (.await s e)
/-- A field initialiser. -/
inductive IsInit : Value → Init → Prop where
  | mk {o s n e} : s.Fits → Part IsName o "name" n → Part IsExpr o "expr" e →
      IsInit (.object o) (.mk s n e)
end

/-- **A pattern.** A literal may stand bare or under a key of its own. -/
inductive IsPattern : Value → Pattern → Prop where
  | wildcard {o kind s} : kind = "wildcard" ∨ kind = "_" → IsNode o kind s →
      IsPattern (.object o) (.wildcard s)
  | name {o s n} : IsNode o "name" s → Part IsName o "name" n → IsPattern (.object o) (.name s n)
  | bare {o kind s l} : IsNode o kind s → IsLiteral o kind l →
      IsPattern (.object o) (.literal s (.literal s l))
  | literal {o s e} : IsNode o "literal" s → Part IsExpr o "value" e →
      IsPattern (.object o) (.literal s e)
  | none {o s} : IsNode o "none" s → IsPattern (.object o) (.none s)
  | wrap {o s k q} : IsNode o k.label s → Part IsPattern o "pattern" q →
      IsPattern (.object o) (.wrap s k q)
  | ctor {o s type args} : IsNode o "ctor" s → Part IsName o "type" type →
      ListOpt IsPattern o "args" args → IsPattern (.object o) (.ctor s type args)

mutual
/-- **A statement.** -/
inductive IsStmt : Value → Stmt → Prop where
  | bind {o s n t e} : IsNode o "let" s → Part IsName o "name" n → PartOpt IsType o "type" t →
      Part IsExpr o "expr" e → IsStmt (.object o) (.bind s n t e)
  | set {o s n e} : IsNode o "set" s → Part IsName o "name" n → Part IsExpr o "expr" e →
      IsStmt (.object o) (.set s n e)
  | ret {o s e} : IsNode o "return" s → PartOpt IsExpr o "expr" e → IsStmt (.object o) (.ret s e)
  | eval {o s e} : IsNode o "expr" s → Part IsExpr o "expr" e → IsStmt (.object o) (.eval s e)
  | branch {o s e yes no} : IsNode o "if" s → Part IsExpr o "cond" e → Part IsBlock o "then" yes →
      PartOpt IsBlock o "else" no → IsStmt (.object o) (.branch s e yes no)
  | select {o s e cases} : IsNode o "match" s → Part IsExpr o "expr" e →
      Part (IsList IsCase) o "cases" cases → IsStmt (.object o) (.select s e cases)
  | scope {o kind s body} : kind = "scope" ∨ kind = "block" → IsNode o kind s →
      Part IsBlock o "body" body → IsStmt (.object o) (.scope s body)
  | start {o s n e} : IsNode o "start" s → Part IsName o "name" n → Part IsExpr o "expr" e →
      IsStmt (.object o) (.start s n e)
  | wait {o s names} : IsNode o "wait" s → Part (IsList IsText) o "names" names →
      IsStmt (.object o) (.wait s names)
/-- A case of a match. -/
inductive IsCase : Value → Case → Prop where
  | mk {o s q body} : s.Fits → Part IsPattern o "pattern" q → Part IsBlock o "body" body →
      IsCase (.object o) (.mk s q body)
/-- **A block**: a list of statements, bare or under a key. -/
inductive IsBlock : Value → List Stmt → Prop where
  | array {v ss} : IsList IsStmt v ss → IsBlock v ss
  | object {o ss} : Part (IsList IsStmt) o "statements" ss → IsBlock (.object o) ss
end

theorem IsBlock.exists_of_mem {v : Value} {ss : List Stmt} (h : IsBlock v ss) :
    ∀ s ∈ ss, ∃ w, IsStmt w s := by
  cases h with
  | array h => exact h.exists_of_mem
  | object h =>
    obtain ⟨-, h⟩ := h
    exact h.exists_of_mem

/-- A parameter or a data field. -/
inductive IsTypedName : Value → TypedName → Prop where
  | mk {o s n t} : s.Fits → Part IsName o "name" n → Part IsType o "type" t →
      IsTypedName (.object o) ⟨s, n, t⟩

/-! ## Declarations -/

/-- **The effect of a function**: the join of what its labels name. -/
def DeclaresEffect (o : List (String × Value)) (e : Effect) : Prop :=
  ∃ labels single, ListOpt IsText o "effects" labels ∧ PartOpt IsText o "effect" single ∧
    Effect.ofLabels (labels ++ single.toList) = .ok e

/-- **A function declaration.** -/
structure IsFunc (o : List (String × Value)) (f : Func) : Prop where
  name : Part IsName o "name" f.name
  typeParams : ListOpt IsText o "typeParams" f.typeParams
  params : ListOpt IsTypedName o "params" f.params
  ret : PartOpt IsType o "ret" f.ret
  effect : DeclaresEffect o f.effect
  capabilities : PartOpt (IsList IsCapability) o "capabilities" f.capabilities
  body : Part IsBlock o "body" f.body

/-- **A declaration.** -/
inductive IsDecl : Value → Decl → Prop where
  | func {o kind f} : kind = "func" ∨ kind = "fn" ∨ kind = "function" → IsNode o kind f.span →
      IsFunc o f → IsDecl (.object o) (.func f)
  | data {o s n fields} : IsNode o "data" s → Part IsName o "name" n →
      ListOpt IsTypedName o "fields" fields → IsDecl (.object o) (.data s n fields)
  | enum {o s n variants} : IsNode o "enum" s → Part IsName o "name" n →
      ListOpt IsText o "variants" variants → IsDecl (.object o) (.enum s n variants)
  | aliased {o kind s n t} : kind = "alias" ∨ kind = "type" → IsNode o kind s →
      Part IsName o "name" n → Part IsType o "type" t → IsDecl (.object o) (.alias s n t)
  | imported {o s n} : IsNode o "import" s → Part IsName o "name" n →
      IsDecl (.object o) (.imported s n)

/-- **A module**: an object with a name and a list of declarations. The list has two keys, of which
the second counts only where the first is not there at all. -/
inductive IsModule : Value → Module → Prop where
  | mk {o key m} : key = "decls" ∨ (key = "declarations" ∧ Document.field? o "decls" = none) →
      m.version = supportedVersion → Part IsName o "name" m.name →
      Part (IsList IsDecl) o key m.decls → IsModule (.object o) m

end Form

end Ir

end CoreCheck
