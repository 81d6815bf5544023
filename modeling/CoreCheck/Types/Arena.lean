import CoreCheck.Number.Decimal
import CoreCheck.Span
import CoreCheck.Strings
import CoreCheck.Taint

/-!
# Types/Arena — types by number

Every type of a module is kept in an arena and named by its number, counted from one; number zero is
no type. A shape is stored once, so equal structures have equal numbers. The parts of a type are
older than the type itself, which is why the functions that walk down a type end. The names of type
parameters are kept in a pool of texts; an arena carries the proof that none is missing there.
-/

namespace CoreCheck.Types

/-- The number of a type; zero is no type. -/
abbrev TypeId := Nat

/-- **The shape of a type**, its parts given by number. -/
inductive Shape where
  /-- The placeholder after an error. -/
  | unknown
  | int | long | double | text | bool | unit | null
  /-- A record type, by its slot. -/
  | data (slot : Nat)
  /-- An enumeration, by its slot. -/
  | enum (slot : Nat)
  /-- A type parameter. -/
  | var (name : String)
  | func (params : List TypeId) (result : TypeId)
  | optional (elem : TypeId)
  | list (elem : TypeId)
  | map (key value : TypeId)
  | result (ok err : TypeId)
  /-- A sensitive type. -/
  | pii (base : TypeId) (level : Level) (category : String)
deriving DecidableEq, Inhabited

/-- The kind of a type: its shape without its parts. -/
inductive Kind where
  | unknown | int | long | double | text | bool | unit | null
  | data | enum | var | func | optional | list | map | result | pii
deriving DecidableEq, Inhabited

/-- The name of a kind. -/
def Kind.label : Kind → String
  | .unknown => "unknown"
  | .int => "int"
  | .long => "long"
  | .double => "double"
  | .text => "text"
  | .bool => "bool"
  | .unit => "unit"
  | .null => "null"
  | .data => "data"
  | .enum => "enum"
  | .var => "var"
  | .func => "fn"
  | .optional => "optional"
  | .list => "list"
  | .map => "map"
  | .result => "result"
  | .pii => "pii"

/-- Whether a kind is that of a builtin scalar. -/
def Kind.isPrimitive : Kind → Bool
  | .int | .long | .double | .text | .bool | .unit | .null => true
  | _ => false

namespace Shape

/-- The kind of a shape. -/
def kind : Shape → Kind
  | .unknown => .unknown
  | .int => .int
  | .long => .long
  | .double => .double
  | .text => .text
  | .bool => .bool
  | .unit => .unit
  | .null => .null
  | .data _ => .data
  | .enum _ => .enum
  | .var _ => .var
  | .func _ _ => .func
  | .optional _ => .optional
  | .list _ => .list
  | .map _ _ => .map
  | .result _ _ => .result
  | .pii _ _ _ => .pii

/-- The main part of a shape: the element, the value of a map, the good case of a result. -/
def elem : Shape → TypeId
  | .optional e | .list e | .map _ e | .result e _ | .pii e _ _ => e
  | _ => 0

/-- The second part of a shape: the key of a map, the error of a result. -/
def key : Shape → TypeId
  | .map k _ | .result _ k => k
  | _ => 0

/-- **The written signature of a function type**: the numbers of its parameters between commas, an
arrow, and the number of its result. -/
def signatureText (params : List TypeId) (res : TypeId) : String :=
  String.ofList ([','].intercalate (params.map digitsOf) ++ '-' :: '>' :: digitsOf res)

/-- The written signature of a shape, if it is that of a function type. -/
def signature? : Shape → Option String
  | .func params res => some (signatureText params res)
  | _ => none

/-- A pool of texts that also has the name of a type parameter. -/
def noted (p : Strings) : Shape → Strings
  | .var name => (p.intern name).1
  | _ => p

theorem mem_noted {p : Strings} {t : String} (h : t ∈ p.all) (s : Shape) : t ∈ (s.noted p).all := by
  cases s with
  | var name => exact Strings.mem_intern h name
  | _ => exact h

end Shape

/-- A field of a record type. -/
structure Field where
  name : String
  type : TypeId
  span : Span := {}
deriving Inhabited, DecidableEq

/-- What is known about a record type. -/
structure DataInfo where
  name : String
  span : Span
  fields : List Field := []
deriving Inhabited

/-- The field of a given name; of several the first. -/
def DataInfo.field? (d : DataInfo) (name : String) : Option Field := d.fields.find? (·.name = name)

/-- What is known about an enumeration. -/
structure EnumInfo where
  name : String
  span : Span
  variants : List String
deriving Inhabited

/-- Whether a name is one of the variants. -/
def EnumInfo.hasVariant (e : EnumInfo) (name : String) : Bool := e.variants.contains name

/-- **The types of a module**, with the details of its record and enumeration types. -/
structure Arena where
  shapes : Array Shape
  datas : Array DataInfo := #[]
  enums : Array EnumInfo := #[]
  strings : Strings := {}
  /-- The names of type parameters are in the pool. -/
  named : ∀ {name}, Shape.var name ∈ shapes → name ∈ strings.all

/-! ## The builtin types -/

def unknown : TypeId := 1
def int : TypeId := 2
def long : TypeId := 3
def double : TypeId := 4
def text : TypeId := 5
def bool : TypeId := 6
def unit : TypeId := 7
def null : TypeId := 8

namespace Arena

/-- The arena that holds the builtin types only. -/
def initial : Arena :=
  { shapes := #[.unknown, .int, .long, .double, .text, .bool, .unit, .null], named := by simp }

instance : Inhabited Arena := ⟨initial⟩

/-- How many types there are. -/
def size (a : Arena) : Nat := a.shapes.size

/-- The shape of a type. -/
def lookup (a : Arena) (id : TypeId) : Option Shape := if id = 0 then none else a.shapes[id - 1]?

/-- Notes a text in the pool of the arena. -/
def note (a : Arena) (s : String) : Arena :=
  { a with strings := (a.strings.intern s).1, named := fun h => Strings.mem_intern (a.named h) s }

/-- Adds a shape at the end, and the name of a type parameter to the pool. -/
def store (a : Arena) (s : Shape) : Arena :=
  { a with
    shapes := a.shapes.push s
    strings := s.noted a.strings
    named := fun h => by
      obtain h | rfl := Array.mem_push.1 h
      · exact Shape.mem_noted (a.named h) s
      · exact Strings.mem_intern_self _ _ }

/-- **Stores a shape once**: a shape already there keeps its number. -/
def intern (a : Arena) (s : Shape) : Arena × TypeId :=
  match a.shapes.idxOf? s with
  | some i => (a, i + 1)
  | none => (a.store s, a.shapes.size + 1)

def optional (a : Arena) (elem : TypeId) : Arena × TypeId := a.intern (.optional elem)
def list (a : Arena) (elem : TypeId) : Arena × TypeId := a.intern (.list elem)
def map (a : Arena) (key value : TypeId) : Arena × TypeId := a.intern (.map key value)
def result (a : Arena) (ok err : TypeId) : Arena × TypeId := a.intern (.result ok err)
def var (a : Arena) (name : String) : Arena × TypeId := a.intern (.var name)

/-- A function type. It is found again by its written signature, not by its shape. -/
def func (a : Arena) (params : List TypeId) (res : TypeId) : Arena × TypeId :=
  match a.shapes.findIdx? fun s => s.signature? == some (Shape.signatureText params res) with
  | some i => (a, i + 1)
  | none => (a.store (.func params res), a.shapes.size + 1)

/-- **A sensitive type.** Nested marks collapse into one of the higher level. -/
def pii (a : Arena) (base : TypeId) (level : Level) (category : String) : Arena × TypeId :=
  let (base, level) := match a.lookup base with
    | some (.pii inner l _) => (inner, level.max l)
    | _ => (base, level)
  (a.note category).intern (.pii base level category)

/-- A new record type, whose fields are set later so that records may refer to each other. -/
def newData (a : Arena) (name : String) (span : Span) : Arena × TypeId :=
  { a with datas := a.datas.push { name, span } }.intern (.data a.datas.size)

/-- A new enumeration. -/
def newEnum (a : Arena) (name : String) (span : Span) (variants : List String) : Arena × TypeId :=
  { a with enums := a.enums.push { name, span, variants } }.intern (.enum a.enums.size)

/-- The details of a record type. -/
def dataInfo? (a : Arena) (id : TypeId) : Option DataInfo :=
  match a.lookup id with
  | some (.data slot) => a.datas[slot]?
  | _ => none

/-- Sets the fields of a record type; any other type is left alone. -/
def setFields (a : Arena) (id : TypeId) (fields : List Field) : Arena :=
  match a.lookup id with
  | some (.data slot) => { a with datas := a.datas.modify slot fun d => { d with fields } }
  | _ => a

/-- The details of an enumeration. -/
def enumInfo? (a : Arena) (id : TypeId) : Option EnumInfo :=
  match a.lookup id with
  | some (.enum slot) => a.enums[slot]?
  | _ => none

/-- The parameters and the result of a function type. -/
def funcInfo? (a : Arena) (id : TypeId) : Option (List TypeId × TypeId) :=
  match a.lookup id with
  | some (.func params res) => some (params, res)
  | _ => none

/-- The type under a sensitivity mark. -/
def unwrap (a : Arena) (id : TypeId) : TypeId :=
  match a.lookup id with
  | some (.pii base _ _) => base
  | _ => id

/-- The kind of a type under its mark. What is no type counts as unknown. -/
def kindOf (a : Arena) (id : TypeId) : Kind :=
  match a.lookup (a.unwrap id) with
  | some s => s.kind
  | none => .unknown

/-- Whether a type is the placeholder, or no type. -/
def isUnknown (a : Arena) (id : TypeId) : Bool := a.kindOf id == .unknown

/-- **The taint that a type carries**: that of its mark, looked for through optionals, lists and
maps. A part that is not older than its type is not looked at. -/
def taintOf (a : Arena) (id : TypeId) : Option Taint :=
  match a.lookup id with
  | some (.pii _ level category) => some (Taint.make level [category])
  | some (.optional e) | some (.list e) => if _h : e < id then a.taintOf e else none
  | some (.map k v) =>
    Taint.merge (if _h : k < id then a.taintOf k else none)
      (if _h : v < id then a.taintOf v else none)
  | _ => none
termination_by id

end Arena

end CoreCheck.Types
