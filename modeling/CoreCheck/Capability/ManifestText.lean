import CoreCheck.Capability.Manifest
import CoreCheck.Document.JsonText
import CoreCheck.Path
import CoreCheck.Toml.Reader
import CoreCheck.Yaml

/-!
# Capability/ManifestText — manifests as they are written

A manifest holds two lists of labels, `allow` and `deny`, under `capabilities`. It is written as
JSON, TOML or YAML. JSON readers overlook keys they do not know; in the other two forms such a key
is an error.
-/

namespace CoreCheck.Manifest

/-- **The form a manifest is written in.** -/
inductive Form where
  | json | toml | yaml
deriving DecidableEq, Inhabited

/-- The form of a name; no name means JSON. -/
def Form.ofName? (name : String) : Option Form :=
  match name with
  | "json" | "" => some .json
  | "toml" => some .toml
  | "yaml" | "yml" => some .yaml
  | _ => none

/-- The form of a file by the extension of its name; other extensions mean JSON. -/
def Form.ofPath (path : String) : Form :=
  match Text.lower (Path.extension path) with
  | ".toml" => .toml
  | ".yaml" | ".yml" => .yaml
  | _ => .json

/-- **Why a text is no manifest.** -/
inductive TextError where
  | malformed
  /-- A key that no manifest has. -/
  | unknownKey (key : String)
  | refused (cause : Refused)
deriving DecidableEq

/-- The wording of the reason. -/
def TextError.message : TextError → String
  | .malformed => "malformed capability manifest"
  | .unknownKey key => "malformed capability manifest: unknown key " ++ Text.quote key
  | .refused cause => cause.message

/-- The two label lists of a manifest. -/
structure Labels where
  allow : List String := []
  deny : List String := []

/-! ## JSON -/

/-- A list of labels over what the list held before: null keeps what stood in its place. -/
def overlay : List String → List Document.Value → Option (List String)
  | _, [] => some []
  | old, .text s :: rest => (overlay old.tail rest).map (s :: ·)
  | old, .null :: rest => (overlay old.tail rest).map (old.headD "" :: ·)
  | _, _ :: _ => none

/-- A label list while it is read: the labels that count, and those that stood behind them in a
longer list before. -/
structure Slots where
  labels : List String := []
  behind : List String := []

/-- Reads a list once more. Null empties it, and so does an empty list. -/
def Slots.read (s : Slots) : Document.Value → Option Slots
  | .null => some {}
  | .array [] => some {}
  | .array items =>
    (overlay (s.labels ++ s.behind) items).map fun labels =>
      ⟨labels, (s.labels ++ s.behind).drop labels.length⟩
  | _ => none

/-- Reads the members of the inner object, in order. -/
def readLists (allow deny : Slots) : List (String × Document.Value) → Option (Slots × Slots)
  | [] => some (allow, deny)
  | (key, v) :: rest =>
    if Text.spells key "allow" then (allow.read v).bind fun allow => readLists allow deny rest
    else if Text.spells key "deny" then (deny.read v).bind fun deny => readLists allow deny rest
    else readLists allow deny rest

/-- Reads the members of the outer object, in order. -/
def readOuter (allow deny : Slots) : List (String × Document.Value) → Option (Slots × Slots)
  | [] => some (allow, deny)
  | (key, v) :: rest =>
    if Text.spells key "capabilities" then
      match v with
      | .null => readOuter allow deny rest
      | .object ms => (readLists allow deny ms).bind fun (a, d) => readOuter a d rest
      | _ => none
    else readOuter allow deny rest

/-- The label lists of a JSON text. -/
def labelsOfJson (cs : List Char) : Except TextError Labels :=
  let lists : Option (Slots × Slots) := match Document.JsonText.readAll cs with
    | .document .null => some ({}, {})
    | .document (.object ms) => readOuter {} {} ms
    | _ => none
  match lists with
  | some (allow, deny) => .ok ⟨allow.labels, deny.labels⟩
  | none => .error .malformed

/-! ## TOML -/

/-- What a manifest looks like. -/
def tomlFields : List (String × Toml.Shape) :=
  [("capabilities", .record [("allow", .texts), ("deny", .texts)])]

/-- The label lists of a TOML text. -/
def labelsOfToml (bytes : List UInt8) : Except TextError Labels :=
  match Toml.Document.ofBytes? bytes with
  | none => .error .malformed
  | some d =>
    match d.strangers tomlFields with
    | none => .error .malformed
    | some (key :: _) => .error (.unknownKey (Toml.keyText key))
    | some [] =>
      let lists := Toml.Table.part d.root "capabilities"
      .ok ⟨Toml.Table.textsOf lists "allow", Toml.Table.textsOf lists "deny"⟩

/-! ## YAML -/

/-- A list of labels; what is null is left out. -/
def yamlLabels : List Yaml.Value → Option (List String)
  | [] => some []
  | v :: rest =>
    if v.isNull then yamlLabels rest
    else
      match v with
      | .plain s | .quoted s => (yamlLabels rest).map (s :: ·)
      | _ => none

/-- The labels of a list that may be null. -/
def yamlList (v : Yaml.Value) : Option (List String) :=
  if v.isNull then some []
  else
    match v with
    | .list items => yamlLabels items
    | _ => none

/-- The members of a map whose keys are all known and different; null has none. -/
def yamlMembers (known : List String) (v : Yaml.Value) : Option (List (String × Yaml.Value)) :=
  if v.isNull then some []
  else
    match v with
    | .map ms =>
      let keys := ms.map (·.1)
      if keys.all known.contains && keys.eraseDups.length = keys.length then some ms else none
    | _ => none

/-- The member of a key; without one it is null. -/
def yamlField (ms : List (String × Yaml.Value)) (key : String) : Yaml.Value :=
  (ms.lookup key).getD (.plain "")

/-- The label lists of a YAML text. -/
def labelsOfYaml (bytes : List UInt8) : Except TextError Labels :=
  let labels : Option Labels := do
    let outer ← yamlMembers ["capabilities"] (← Yaml.ofBytes? bytes)
    let inner ← yamlMembers ["allow", "deny"] (yamlField outer "capabilities")
    return ⟨← yamlList (yamlField inner "allow"), ← yamlList (yamlField inner "deny")⟩
  match labels with
  | some l => .ok l
  | none => .error .malformed

/-! ## Any form -/

/-- The label lists of a text. -/
def labelsOf (form : Form) (bytes : List UInt8) : Except TextError Labels :=
  match form with
  | .json => labelsOfJson (Text.lossy bytes)
  | .toml => labelsOfToml bytes
  | .yaml => labelsOfYaml bytes

/-- **Reads a manifest.** -/
def ofBytes (form : Form) (bytes : List UInt8) : Except TextError Manifest := do
  let labels ← labelsOf form bytes
  (ofLabels labels.allow labels.deny).mapError .refused

end CoreCheck.Manifest
