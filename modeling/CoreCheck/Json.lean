import CoreCheck.Text.Quoted
import CoreCheck.Number.Binary64
import CoreCheck.Text.Split

/-!
# Json — documents written for other programs

Reports and traces are written as JSON. A value keeps its members in the order in which they are to
be written; the printer puts a document on one line, or on several with an indent of two spaces.
-/

namespace CoreCheck

/-- **A JSON value to be written.** Members keep their order. -/
inductive Json where
  | null
  | bool (b : Bool)
  | int (n : Int)
  | double (x : Binary64)
  | str (s : String)
  | arr (items : List Json)
  | obj (members : List (String × Json))
deriving Inhabited

namespace Json

/-- A list of texts. -/
def strings (ss : List String) : Json := .arr (ss.map .str)

/-- Which characters are escaped beyond what the format asks for. -/
structure Escapes where
  /-- Escape `<`, `>` and `&`, so that the text may stand inside a markup page. -/
  markup : Bool
  /-- Escape the line and paragraph separators. -/
  separators : Bool
  /-- Write backspace and form feed by their letters. -/
  letters : Bool

/-- One character inside a JSON string. -/
def escapeChar (e : Escapes) (c : Char) : List Char :=
  match c with
  | '"' => ['\\', '"']
  | '\\' => ['\\', '\\']
  | '\n' => ['\\', 'n']
  | '\r' => ['\\', 'r']
  | '\t' => ['\\', 't']
  | _ =>
    let n := c.toNat
    if e.letters && n == 0x08 then ['\\', 'b']
    else if e.letters && n == 0x0C then ['\\', 'f']
    else if n < 0x20 || (e.markup && (c == '<' || c == '>' || c == '&'))
        || (e.separators && (n == 0x2028 || n == 0x2029)) then
      '\\' :: 'u' :: Text.hexDigits 4 n
    else [c]

/-- A text as a JSON string. -/
def quoted (e : Escapes) (s : String) : String :=
  String.ofList ('"' :: (s.toList.flatMap (escapeChar e) ++ ['"']))

/-- The start of a line at a given depth. -/
def lineStart (depth : Nat) : String := "\n" ++ String.ofList (List.replicate (2 * depth) ' ')

/-- Texts between two brackets, on one line. -/
def inlineBlock (opening closing : String) (items : List String) : String :=
  opening ++ Text.join "," items ++ closing

/-- Texts between two brackets, each on a line of its own. -/
def indentedBlock (opening closing : String) (depth : Nat) (items : List String) : String :=
  if items.isEmpty then opening ++ closing
  else
    opening ++ Text.join "," (items.map (lineStart (depth + 1) ++ ·)) ++ lineStart depth ++ closing

mutual
/-- The value on one line. -/
def compact (e : Escapes) : Json → String
  | .null => "null"
  | .bool true => "true"
  | .bool false => "false"
  | .int n => intText n
  | .double x => x.jsonText
  | .str s => quoted e s
  | .arr items => inlineBlock "[" "]" (compactItems e items)
  | .obj members => inlineBlock "\x7b" "\x7d" (compactMembers e members)
/-- The items of a list, each on one line. -/
def compactItems (e : Escapes) : List Json → List String
  | [] => []
  | v :: rest => compact e v :: compactItems e rest
/-- The members of an object, each on one line. -/
def compactMembers (e : Escapes) : List (String × Json) → List String
  | [] => []
  | (k, v) :: rest => (quoted e k ++ ":" ++ compact e v) :: compactMembers e rest
end

mutual
/-- The value over several lines, at a given depth. -/
def indented (e : Escapes) (depth : Nat) : Json → String
  | .null => "null"
  | .bool true => "true"
  | .bool false => "false"
  | .int n => intText n
  | .double x => x.jsonText
  | .str s => quoted e s
  | .arr items => indentedBlock "[" "]" depth (indentedItems e (depth + 1) items)
  | .obj members => indentedBlock "\x7b" "\x7d" depth (indentedMembers e (depth + 1) members)
/-- The items of a list, each over several lines. -/
def indentedItems (e : Escapes) (depth : Nat) : List Json → List String
  | [] => []
  | v :: rest => indented e depth v :: indentedItems e depth rest
/-- The members of an object, each over several lines. -/
def indentedMembers (e : Escapes) (depth : Nat) : List (String × Json) → List String
  | [] => []
  | (k, v) :: rest =>
    (quoted e k ++ ": " ++ indented e depth v) :: indentedMembers e depth rest
end

/-- Members whose value is wanted, in order. -/
def members (ms : List (Option (String × Json))) : Json := .obj (ms.filterMap id)

/-- A member that is left out when its text is empty. -/
def nonempty (key value : String) : Option (String × Json) :=
  if value = "" then none else some (key, .str value)

end Json

end CoreCheck
