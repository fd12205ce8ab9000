import Audience.Text.Mark

/-! # Writing direction

Letters are written from left to right or from right to left, and numbers and punctuation follow the
letters around them. A name that mixes directions is legible only under certain rules.

* **`Direction.of n`** — the class of a code point.
* **`Direction.isLegible codes`** — whether a part of a name keeps the rules for names with
  characters that are written from right to left. -/

namespace Audience

/-- How a character takes part in the order of writing. -/
inductive Direction
  /-- A letter that is written from left to right. -/
  | leftToRight
  /-- A letter that is written from right to left. -/
  | rightToLeft
  /-- A letter of an Arabic script. -/
  | arabic
  /-- An Arabic digit. -/
  | arabicDigit
  /-- A European digit. -/
  | digit
  /-- A sign such as plus and minus. -/
  | sign
  /-- A separator of digits such as the comma. -/
  | separator
  /-- A mark of a number such as the sign of a currency. -/
  | unit
  /-- A nonspacing mark. -/
  | mark
  /-- A control without width. -/
  | control
  /-- Any other symbol. -/
  | neutral
  deriving DecidableEq, Repr

namespace Direction

/-- The letters beyond ASCII that are written from right to left. -/
def rightToLeftLetters : List TableRow := tableOf [
  "5BE 5C0 5C3 5C6 5D0-5F4 7C0-7EA 7F4-7F5 7FA 7FE-815 81A 824 828 830-858 85E 10800-1091B",
  "10920-10A00 10A10-10A35 10A40-10AE4 10AEB-10B35 10B40-10CFF 10D40-10D4F 10D6E-10D8F",
  "10E80-10EA9 10EAD-10EB1 10F00-10F27 10F70-10F81 10F86-10FF6 1E800-1E8CF 1E922-1E943",
  "1E94B-1E95F"]

/-- The letters of Arabic scripts. -/
def arabicLetters : List TableRow := tableOf [
  "608 60B 60D 61B-64A 66D-66F 671-6D5 6E5-6E6 6EE-6EF 6FA-710 712-72F 74D-7A5 7B1 860-88F",
  "8A0-8C9 FBB2-FBD2 FD90-FDCE FE73 10D00-10D23 10EC2-10ED8 10F30-10F45 10F51-10F59 1EC71-1ED3D"]

/-- The Arabic digits. -/
def arabicDigits : List TableRow := tableOf [
  "660-669 66B-66C 10D30-10D39 10E60-10E7E"]

/-- The European digits beyond ASCII. -/
def digits : List TableRow := tableOf [
  "6F0-6F9 102E1-102FB"]

/-- The marks of numbers beyond ASCII. -/
def units : List TableRow := tableOf [
  "A2-A5 B0-B1 58F 609-60A 66A 9F2-9F3 9FB AF1 BF9 E3F 17DB 2030-2032 20A0-20C1 212E 2213",
  "A838-A839 11FDD-11FE0 1E2FF"]

/-- The other symbols beyond ASCII. -/
def neutrals : List TableRow := tableOf [
  "A1 A6-AE B6-D7 F7 2B9-2BA 2C2-2CF 2D2-2ED 2EF-2FF 375 3F6 58A-58E 606-607 60E-60F 6DE 6E9",
  "7F6-7F9 BF3-BF8 BFA C78-C7E F3A-F3D 1390-1399 1400 169B-169C 17F0-180A 1940-1945 19DE-19FF",
  "2010-2027 2035-2043 2045-205E 2104-2129 213A-214D 218A-2211 2214-2335 237B-2394 2396-2426",
  "2440-26AB 26AD-27FF 2900-2B95 2B97-2BFF 2CE5-2CEA 2CF9-2CFF 2E00-3004 3008-3020 3030 3037",
  "303D-303F 30A0 30FB 31C0-31E3 4DC0-4DFF A490-A4C6 A60D-A60F A673 A67E-A67F A700-A721 A788",
  "A828-A82B A874-A877 AB6A-AB6B FD3E-FD4F FDCF-FDFF FE45-FE46 10101 10140-1018C 10190-101A0",
  "1091F 10B39-10B3F 11052-11065 11660-1166C 11FD5-11FDC 11FE1-11FF1 16FE2 1D1E9-1D241 1D245",
  "1D300-1D356 1EEF0-1F12F 1F16D-1F16F 1F1AD 1F260-1F6D7 1F6DC-1F776 1F77B-1F8B1 1F900-1FA53",
  "1FA60-1FA88 1FA90-1FABD 1FABF-1FAC5 1FACE-1FADB 1FAE0-1FAE8 1FAF0-1FBCA"]

/-- The class of an ASCII character. -/
def ofAscii (c : Char) : Direction :=
  if c.isAlpha then .leftToRight
  else if c.isDigit then .digit
  else if ['+', '-'].contains c then .sign
  else if [',', '.', '/', ':'].contains c then .separator
  else if ['#', '$', '%'].contains c then .unit
  else .neutral

/-- The class of a code point. -/
def of (n : Nat) : Direction :=
  if n < 128 then ofAscii (Char.ofNat n)
  else if isNonspacing n then .mark
  else if inTable rightToLeftLetters n then .rightToLeft
  else if inTable arabicLetters n then .arabic
  else if inTable arabicDigits n then .arabicDigit
  else if inTable digits n then .digit
  else if inTable units n then .unit
  else if inTable neutrals n then .neutral
  else if n = 0x2212 then .sign
  else if n = 0x60C ∨ n = 0x2044 then .separator
  else if n = 0x200C ∨ n = 0x200D then .control
  else .leftToRight

/-- Whether a character makes a name one with characters that are written from right to left. -/
def isFromRight (n : Nat) : Bool :=
  [Direction.rightToLeft, .arabic, .arabicDigit].contains (of n)

/-- The classes that may stand anywhere in a part of either direction. -/
def isWeak (d : Direction) : Bool :=
  [Direction.digit, .sign, .separator, .unit, .neutral, .control, .mark].contains d

/-- The classes of a part without the marks at its end. -/
def withoutLastMarks (ds : List Direction) : List Direction :=
  (ds.reverse.dropWhile (fun d => d == .mark)).reverse

/-- Whether a part that starts with a letter from the left is legible. -/
def isLegibleFromLeft (ds : List Direction) : Bool :=
  ds.all (fun d => d == .leftToRight || d.isWeak) &&
  (withoutLastMarks ds).getLast?.all (fun d => [Direction.leftToRight, .digit].contains d)

/-- Whether a part that starts with a letter from the right is legible: it has digits of one kind
only. -/
def isLegibleFromRight (ds : List Direction) : Bool :=
  ds.all (fun d => [Direction.rightToLeft, .arabic, .arabicDigit].contains d || d.isWeak) &&
  (withoutLastMarks ds).getLast?.all (fun d =>
    [Direction.rightToLeft, .arabic, .digit, .arabicDigit].contains d) &&
  !(ds.contains .digit && ds.contains .arabicDigit)

/-- Whether a part of a name keeps the rules for names with characters that are written from right
to left. -/
def isLegible (codes : List Nat) : Bool :=
  let ds := codes.map of
  match ds with
  | [] => true
  | .leftToRight :: _ => isLegibleFromLeft ds
  | .rightToLeft :: _ => isLegibleFromRight ds
  | .arabic :: _ => isLegibleFromRight ds
  | _ => false

end Direction

end Audience
