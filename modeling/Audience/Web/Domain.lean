import Audience.Text.Compose
import Audience.Text.Direction
import Audience.Text.Joiner
import Audience.Text.Mark
import Audience.Web.Domain.Mapping
import Audience.Web.Punycode

/-! # Domain names

A domain name is a sequence of labels with dots between them. On the wire every label is ASCII: a
label with other characters is written in Punycode after the mark `xn--`. The ASCII form of a name
exists only if its labels are well formed.

* **`Domain.toAscii? cs`** — the ASCII form of a domain name. -/

namespace Audience.Domain

/-- What stands before the Punycode form of a label. -/
def punycodeMark : List Char := ['x', 'n', '-', '-']

/-- Whether a text is ASCII only. -/
def isAscii (cs : List Char) : Bool := cs.all (fun c => decide (c.toNat < 128))

/-- The composed form of a text. -/
def composed (cs : List Char) : List Char :=
  if isAscii cs then cs else (Compose.composed (cs.map Char.toNat)).map Char.ofNat

/-- Whether characters that have been read from Punycode are as they would be written. -/
def isStable (cs : List Char) : Bool :=
  cs.all (fun c => Spelling.of c == Spelling.kept) && composed cs == cs

/-- The longest label that is written in Punycode. -/
def longestWritten : Nat := 1000

/-- The longest label that is read from Punycode. -/
def longestRead : Nat := 2000

/-- The characters of a label, read from Punycode if it carries the mark. A label with the mark must
hold at least one character beyond ASCII, and be ASCII itself. -/
def labelChars? (label : List Char) : Option (List Char) :=
  if punycodeMark.isPrefixOf label then
    if isAscii label && decide (label.length ≤ longestRead + 4) then
      (Punycode.decode? (label.drop 4)).filter (fun cs => !isAscii cs && isStable cs)
    else none
  else some label

/-- Whether the characters of a label are well formed: it starts with no mark and has joiners only
where they make a difference. -/
def isWellFormed (cs : List Char) : Bool :=
  isAscii cs ||
    (!cs.head?.any (fun c => isMark c.toNat) && Joiner.areUseful (cs.map Char.toNat))

/-- The ASCII form of a label. -/
def labelToAscii? (label : List Char) : Option (List Char) :=
  if isAscii label then some label
  else if longestWritten < label.length then none
  else some (punycodeMark ++ Punycode.encode label)

/-- Whether a name with the labels is legible: if any character is written from right to left, every
label keeps the rules for such names. -/
def isLegibleName (labels : List (List Char)) : Bool :=
  !labels.any (fun cs => cs.any (fun c => Direction.isFromRight c.toNat)) ||
    labels.all (fun cs => Direction.isLegible (cs.map Char.toNat))

/-- The ASCII form of a domain name. -/
def toAscii? (cs : List Char) : Option (List Char) := do
  let name := composed (← spell? cs)
  if name.any isForbidden then none
  let labels := name.splitOn '.'
  let chars ← labels.mapM labelChars?
  if chars.all isWellFormed && isLegibleName chars then
    (labels.mapM labelToAscii?).map (fun ls => ['.'].intercalate ls)
  else none

end Audience.Domain
