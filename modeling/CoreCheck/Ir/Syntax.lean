import CoreCheck.Capability
import CoreCheck.Effect
import CoreCheck.Number.Binary64
import CoreCheck.Span
import CoreCheck.Taint

/-!
# Ir/Syntax — the intermediate representation that is checked

A module is a list of declarations; functions have bodies of statements over expressions and
patterns. Every node carries the span it came from, which may say nothing. Parts that may be left
out are options; all others are always there.
-/

namespace CoreCheck.Ir

/-- **A type as it is written**, before its names are looked up. -/
inductive TypeExpr where
  /-- A primitive, alias, data or enum type by its name. -/
  | name (span : Span) (name : String)
  /-- A type parameter. -/
  | var (span : Span) (name : String)
  | optional (span : Span) (elem : TypeExpr)
  | list (span : Span) (elem : TypeExpr)
  | map (span : Span) (key value : TypeExpr)
  | result (span : Span) (ok err : TypeExpr)
  | func (span : Span) (params : List TypeExpr) (ret : Option TypeExpr)
  /-- A sensitive type with its level and category. -/
  | pii (span : Span) (elem : TypeExpr) (level : Level) (category : String)
deriving Inhabited

/-- The span of a written type. -/
def TypeExpr.span : TypeExpr → Span
  | .name s _ | .var s _ | .optional s _ | .list s _ | .map s _ _ | .result s _ _
  | .func s _ _ | .pii s _ _ _ => s

/-- A constant. -/
inductive Literal where
  | int (value : Int)
  | long (value : Int)
  | double (value : Binary64)
  | text (value : String)
  | bool (value : Bool)
  | null
deriving DecidableEq, Inhabited

/-- The wrapper that an expression builds or a pattern takes apart. -/
inductive Wrap where
  | some | ok | err
deriving DecidableEq, Inhabited

/-- The name of a wrapper. -/
def Wrap.label : Wrap → String
  | .some => "some"
  | .ok => "ok"
  | .err => "err"

mutual
/-- **An expression.** -/
inductive Expr where
  | name (span : Span) (name : String)
  | literal (span : Span) (value : Literal)
  | binary (span : Span) (op : String) (left right : Expr)
  | unary (span : Span) (op : String) (operand : Expr)
  /-- A call; a dotted target leaves the module. The tags are given only when the producer wrote
  them. -/
  | call (span : Span) (target : String) (args : List Expr) (effect : Option Effect)
      (capability : Option Capability)
  | construct (span : Span) (type : String) (fields : List Init)
  | member (span : Span) (base : Expr) (field : String)
  | wrap (span : Span) (kind : Wrap) (inner : Expr)
  | none (span : Span)
  | list (span : Span) (items : List Expr)
  | await (span : Span) (task : Expr)
/-- One named field of a construction. -/
inductive Init where
  | mk (span : Span) (name : String) (value : Expr)
end

instance : Inhabited Expr := ⟨.none {}⟩

/-- The span of an expression. -/
def Expr.span : Expr → Span
  | .name s _ | .literal s _ | .binary s _ _ _ | .unary s _ _ | .call s _ _ _ _
  | .construct s _ _ | .member s _ _ | .wrap s _ _ | .none s | .list s _ | .await s _ => s

namespace Init

/-- The span of a field initialiser. -/
def span : Init → Span
  | .mk s _ _ => s

/-- The name of the initialised field. -/
def name : Init → String
  | .mk _ n _ => n

/-- The initialising expression. -/
def value : Init → Expr
  | .mk _ _ e => e

end Init

/-- **A pattern**, the left side of a match case. -/
inductive Pattern where
  | wildcard (span : Span)
  /-- Binds the value, or matches an enum variant of that name. -/
  | name (span : Span) (name : String)
  | literal (span : Span) (value : Expr)
  | none (span : Span)
  | wrap (span : Span) (kind : Wrap) (inner : Pattern)
  /-- Takes a data value apart, by position. -/
  | ctor (span : Span) (type : String) (args : List Pattern)

instance : Inhabited Pattern := ⟨.wildcard {}⟩

/-- The span of a pattern. -/
def Pattern.span : Pattern → Span
  | .wildcard s | .name s _ | .literal s _ | .none s | .wrap s _ _ | .ctor s _ _ => s

mutual
/-- **A statement.** -/
inductive Stmt where
  | bind (span : Span) (name : String) (type : Option TypeExpr) (value : Expr)
  | set (span : Span) (name : String) (value : Expr)
  | ret (span : Span) (value : Option Expr)
  | eval (span : Span) (value : Expr)
  | branch (span : Span) (cond : Expr) (yes : List Stmt) (no : Option (List Stmt))
  | select (span : Span) (scrutinee : Expr) (cases : List Case)
  | scope (span : Span) (body : List Stmt)
  | start (span : Span) (name : String) (task : Expr)
  | wait (span : Span) (names : List String)
/-- One case of a match. -/
inductive Case where
  | mk (span : Span) (pattern : Pattern) (body : List Stmt)
end

instance : Inhabited Stmt := ⟨.ret {} Option.none⟩

namespace Case

/-- The span of a case. -/
def span : Case → Span
  | .mk s _ _ => s

/-- The pattern of a case. -/
def pattern : Case → Pattern
  | .mk _ p _ => p

/-- The statements of a case. -/
def body : Case → List Stmt
  | .mk _ _ b => b

end Case

/-- A name with a type: a parameter or a data field. -/
structure TypedName where
  span : Span
  name : String
  type : TypeExpr
deriving Inhabited

/-- **A function declaration.** The capability list is `none` when no list was given at all. -/
structure Func where
  span : Span
  name : String
  typeParams : List String
  params : List TypedName
  ret : Option TypeExpr
  effect : Effect
  capabilities : Option (List Capability)
  body : List Stmt
deriving Inhabited

/-- **A declaration** at the top of a module. -/
inductive Decl where
  | func (f : Func)
  | data (span : Span) (name : String) (fields : List TypedName)
  | enum (span : Span) (name : String) (variants : List String)
  | alias (span : Span) (name : String) (target : TypeExpr)
  | imported (span : Span) (name : String)
deriving Inhabited

/-- The span of a declaration. -/
def Decl.span : Decl → Span
  | .func f => f.span
  | .data s _ _ | .enum s _ _ | .alias s _ _ | .imported s _ => s

/-- The declared name. -/
def Decl.name : Decl → String
  | .func f => f.name
  | .data _ n _ | .enum _ n _ | .alias _ n _ | .imported _ n => n

/-- **One document**, decoded. -/
structure Module where
  version : Nat
  name : String
  source : String
  decls : List Decl
deriving Inhabited

end CoreCheck.Ir
