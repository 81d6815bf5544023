import CoreCheck.Text.Split
import CoreCheck.Types.Arena

/-!
# Types/Label — how types are written in messages

Labels go seven levels deep; what lies deeper is written as dots.
-/

namespace CoreCheck.Types.Arena

/-- How many levels of a type are written out. -/
def labelDepth : Nat := 7

/-- The label of a type, with the number of levels left. -/
def labelAt (a : Arena) : Nat → TypeId → String
  | 0, id => if id = 0 then "?" else "..."
  | n + 1, id =>
    match a.lookup id with
    | none => "?"
    | some .unknown => "Unknown"
    | some .int => "Int"
    | some .long => "Long"
    | some .double => "Double"
    | some .text => "Text"
    | some .bool => "Bool"
    | some .unit => "Unit"
    | some .null => "Null"
    | some (.data slot) => (a.datas[slot]?.map (·.name)).getD "data"
    | some (.enum slot) => (a.enums[slot]?.map (·.name)).getD "enum"
    | some (.var name) => name
    | some (.optional e) => a.labelAt n e ++ "?"
    | some (.list e) => "List<" ++ a.labelAt n e ++ ">"
    | some (.map k v) => "Map<" ++ a.labelAt n k ++ ", " ++ a.labelAt n v ++ ">"
    | some (.result ok err) => "Result<" ++ a.labelAt n ok ++ ", " ++ a.labelAt n err ++ ">"
    | some (.func params res) =>
      "(" ++ Text.join ", " (params.map (a.labelAt n)) ++ ") -> " ++ a.labelAt n res
    | some (.pii base level category) =>
      "Pii<" ++ a.labelAt n base ++ ", " ++ level.label
        ++ (if category = "" then "" else ", " ++ category) ++ ">"

/-- **The label of a type.** -/
def label (a : Arena) (id : TypeId) : String := a.labelAt labelDepth id

end CoreCheck.Types.Arena
