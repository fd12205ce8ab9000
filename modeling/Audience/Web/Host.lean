import Audience.Text.Utf8
import Audience.Web.Domain
import Audience.Web.Ipv4
import Audience.Web.Ipv6
import Audience.Web.Percent

/-! # Hosts

The host of a web address is a domain name in ASCII form, an IPv4 address or an IPv6 address in
brackets. Other schemes have hosts of any characters that do not end the host.

* **`Host.web? cs`** — the host of a web address in its normal form.
* **`Host.generic? cs`** — the host of an address of another scheme. -/

namespace Audience.Host

/-- An IPv6 address in brackets; the opening bracket has been read. -/
def bracketed? (cs : List Char) : Option (List Char) :=
  if cs.getLast? = some ']' then
    (Ipv6.parse? cs.dropLast).map (fun pieces => '[' :: (Ipv6.render pieces ++ [']']))
  else none

/-- The normal form of a domain name, or of the IPv4 address that it spells. -/
def named? (cs : List Char) : Option (List Char) :=
  (Domain.toAscii? (Utf8.decode (percentDecode (Utf8.encode cs)))).bind (fun name =>
    if name.isEmpty then none
    else if Ipv4.endsInNumber name then (Ipv4.parse? name).map Ipv4.render
    else some name)

/-- The host of a web address in its normal form. -/
def web? : List Char → Option (List Char)
  | '[' :: rest => bracketed? rest
  | cs => named? cs

/-- The characters that no host of another scheme has. -/
def forbidden : List Char :=
  ['\x00', '\t', '\n', '\r', ' ', '#', '/', ':', '<', '>', '?', '@', '[', '\\', ']', '^', '|']

/-- Whether a character of a host is written as bytes: controls and everything beyond ASCII. -/
def isWrittenAsBytes (c : Char) : Bool := decide (c.toNat < 0x20 ∨ 0x7F ≤ c.toNat)

/-- The host of an address of another scheme. It may be empty. -/
def generic? : List Char → Option (List Char)
  | '[' :: rest => bracketed? rest
  | cs => if cs.any forbidden.contains then none else some (percentEncode isWrittenAsBytes cs)

end Audience.Host
