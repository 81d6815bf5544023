import CoreCheck.Document.JsonText
import CoreCheck.Document.Msgpack
import CoreCheck.Ir.Reading
import CoreCheck.Path
import CoreCheck.Text.Label

/-!
# Ir/Load — modules from the bytes of an input

The extension of the input's name says how its bytes are to be read.
-/

namespace CoreCheck.Ir

open CoreCheck.Document

/-- Whether a name's extension is that of a MessagePack file. -/
def isMsgpackName (source : String) : Bool :=
  [".msgpack", ".mpk"].contains (Text.lower (Path.extension source))

/-- A module from JSON text. -/
def Module.ofJson (source : String) (cs : List Char) : Except ContractError Module :=
  match JsonText.read cs with
  | .invalid => .error ⟨source, [], .invalidJson⟩
  | .trailing => .error ⟨source, [], .trailing⟩
  | .document v => Module.ofDocument source v

/-- A module from MessagePack bytes. -/
def Module.ofMsgpack (source : String) (bytes : List UInt8) : Except ContractError Module :=
  match Msgpack.read? bytes with
  | none => .error ⟨source, [], .invalidMsgpack⟩
  | some v => Module.ofDocument source v

/-- **A module from the bytes of an input**, by the extension of its name. -/
def Module.ofBytes (source : String) (bytes : List UInt8) : Except ContractError Module :=
  if isMsgpackName source then Module.ofMsgpack source bytes
  else Module.ofJson source (Text.lossy bytes)

end CoreCheck.Ir
