import Audience.Text.Utf8
import Audience.Web.Percent

/-! # Query strings

The query of an address is a list of pairs of key and value, divided by ampersands. A plus sign
stands for a blank.

* **`queryPairs query`** — the pairs in order. -/

namespace Audience

/-- The text of an encoded key or value. -/
def decodeComponent (cs : List Char) : String :=
  let bytes := Utf8.encode (cs.map (fun c => if c = '+' then ' ' else c))
  String.ofList (Utf8.decode (percentDecode bytes))

/-- The pair of a key and a value; without an equals sign the value is empty. -/
def decodePair (cs : List Char) : String × String :=
  (decodeComponent (cs.takeWhile (· != '=')), decodeComponent ((cs.dropWhile (· != '=')).drop 1))

/-- The pairs of a query in order. Empty parts between ampersands are passed over. -/
def queryPairs (query : List Char) : List (String × String) :=
  ((query.splitOn '&').filter (fun part => !part.isEmpty)).map decodePair

end Audience
