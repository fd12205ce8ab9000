import Audience.Config.Basic
import Audience.Json.Parser
import Audience.Toml.Parser

/-! # Loading settings

* **`Config.ofToml text`** — the settings of a TOML text, checked.
* **`Config.ofFile path bytes`** — the settings of a TOML file, checked.
* **`Config.ofJson? text`** — the settings of a JSON text, not yet checked. -/

namespace Audience.Config

/-- The settings of a TOML text. -/
def ofToml (text : String) : Except Error Config :=
  match (Toml.parse? text).bind ofDocument? with
  | some c => c.checked
  | none => .error (.config (.parse "the document does not decode"))

/-- The settings of a TOML file with these bytes; a file that is missing has none. -/
def ofFile (path : String) (bytes : Option (List UInt8)) : Except Error Config :=
  match bytes.bind (fun bytes => String.fromUTF8? (ByteArray.mk bytes.toArray)) with
  | some text => ofToml text
  | none => .error (.config (.io path "the file does not read as text"))

/-- The settings of a JSON text. -/
def ofJson? (text : String) : Option Config := (Json.parse? text).bind ofDocument?

end Audience.Config
