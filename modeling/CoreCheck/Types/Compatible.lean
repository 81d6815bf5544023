import CoreCheck.Types.Arena

/-!
# Types/Compatible — where a value of one type may stand for another

The placeholder and type parameters fit anywhere, sensitivity marks are looked through, an optional
takes its element and null, and containers, results and functions are compared part by part, the
parameters of functions the other way round. `join` finds a type that two types fit into.
-/

namespace CoreCheck.Types

/-- Shapes that fit anywhere and that anything fits: the placeholder and type parameters. -/
def Shape.isWild : Shape → Bool
  | .unknown | .var _ => true
  | _ => false

namespace Arena

/-- **Whether a value of type `actual` may be used where `expected` is required.** A part that is
not older than its type is not looked at. -/
def compatible (a : Arena) (expected actual : TypeId) : Bool :=
  if expected = actual then true
  else
    match a.lookup expected, a.lookup actual with
    | some e, some t =>
      if e.isWild || t.isWild then true
      else
        match e, t with
        | .pii base _ _, _ => if _h : base < expected then a.compatible base actual else true
        | _, .pii base _ _ => if _h : base < actual then a.compatible expected base else true
        | .optional _, .null => true
        | .optional x, .optional y =>
          if _h : x < expected ∧ y < actual then a.compatible x y else true
        | .optional x, _ => if _h : x < expected then a.compatible x actual else true
        | .list x, .list y => if _h : x < expected ∧ y < actual then a.compatible x y else true
        | .map k v, .map k' v' =>
          (if _h : k < expected ∧ k' < actual then a.compatible k k' else true) &&
            (if _h : v < expected ∧ v' < actual then a.compatible v v' else true)
        | .result x y, .result x' y' =>
          (if _h : x < expected ∧ x' < actual then a.compatible x x' else true) &&
            (if _h : y < expected ∧ y' < actual then a.compatible y y' else true)
        | .func ps r, .func ps' r' =>
          ps.length == ps'.length &&
            (ps.zip ps').all (fun (p, p') =>
              if _h : p < expected ∧ p' < actual then a.compatible p' p else true) &&
            (if _h : r < expected ∧ r' < actual then a.compatible r r' else true)
        | _, _ => false
    | _, _ => true
termination_by expected + actual
decreasing_by all_goals (simp only [TypeId] at *; omega)

/-- **A type that both fit into**, if there is one. The placeholder gives way, and null turns the
other type into an optional. -/
def join (a : Arena) (s t : TypeId) : Arena × Option TypeId :=
  if s = t then (a, some s)
  else if a.isUnknown s then (a, some t)
  else if a.isUnknown t then (a, some s)
  else if a.kindOf s == .null && a.kindOf t != .optional then
    let (a, id) := a.optional t
    (a, some id)
  else if a.kindOf t == .null && a.kindOf s != .optional then
    let (a, id) := a.optional s
    (a, some id)
  else if a.compatible s t then (a, some s)
  else if a.compatible t s then (a, some t)
  else (a, none)

end Arena

end CoreCheck.Types
