import Audience.Hash.Base64
import Audience.Hash.Blake3

/-! # Text digests

Page texts are not stored; what is stored in their place is a digest that tells them apart.

* **`digest text`** — the hash of the text in base 64. -/

namespace Audience

/-- The hash of a text in base 64. -/
def digest (text : String) : String :=
  String.ofList (Base64.encode (Blake3.hash text.toUTF8.toList))

end Audience
