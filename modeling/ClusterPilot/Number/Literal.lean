/-
Numbers as texts write them, with blanks around them and a sign in front. The digits of every script
count as those of ASCII, and blanks beyond ASCII as blanks.
-/
import ClusterPilot.Number.Binary64
import ClusterPilot.Text.Basic

namespace ClusterPilot.Number

/-- The zeros beyond ASCII of the scripts that have decimal digits in Unicode 15.0; the ten digits
of a script stand in a row. -/
def zeros : List Nat := [
  0x660, 0x6f0, 0x7c0, 0x966, 0x9e6, 0xa66, 0xae6, 0xb66, 0xbe6, 0xc66, 0xce6, 0xd66, 0xde6, 0xe50,
  0xed0, 0xf20, 0x1040, 0x1090, 0x17e0, 0x1810, 0x1946, 0x19d0, 0x1a80, 0x1a90, 0x1b50, 0x1bb0,
  0x1c40, 0x1c50, 0xa620, 0xa8d0, 0xa900, 0xa9d0, 0xa9f0, 0xaa50, 0xabf0, 0xff10, 0x104a0, 0x10d30,
  0x11066, 0x110f0, 0x11136, 0x111d0, 0x112f0, 0x11450, 0x114d0, 0x11650, 0x116c0, 0x11730, 0x118e0,
  0x11950, 0x11c50, 0x11d50, 0x11da0, 0x11f50, 0x16a60, 0x16ac0, 0x16b50, 0x1d7ce, 0x1d7d8, 0x1d7e2,
  0x1d7ec, 0x1d7f6, 0x1e140, 0x1e2f0, 0x1e4f0, 0x1e950, 0x1fbf0]

/-- The ASCII character that a character counts as in a number. What is neither a digit nor a blank
stays, and is no part of one. -/
def toAscii (c : Char) : Char :=
  if c.toNat < 128 then c
  else if Text.isBlank c then ' '
  else match zeros.find? fun z => z ≤ c.toNat && c.toNat < z + 10 with
    | some z => Char.ofNat ('0'.toNat + (c.toNat - z))
    | none => c

/-- The ASCII characters that may stand around a number. The separators of information that ASCII
has are not among them. -/
def isAround (c : Char) : Bool := c = ' ' || (9 ≤ c.toNat && c.toNat ≤ 13)

/-- Whether a text starts with a minus, and what follows its sign. -/
def splitSign : List Char → Bool × List Char
  | '-' :: cs => (true, cs)
  | '+' :: cs => (false, cs)
  | cs => (false, cs)

/-- The sign of a number and what is written after it. -/
def signAndBody (cs : List Char) : Bool × List Char :=
  splitSign (Text.trimWhile isAround (cs.map toAscii))

/-- The letters that announce a base after a zero. -/
def baseLetters (base : Nat) : List Char :=
  if base = 2 then ['b', 'B'] else if base = 8 then ['o', 'O'] else if base = 16 then ['x', 'X']
  else []

/-- Digits without the announcement of their base. -/
def dropBase (base : Nat) : List Char → List Char
  | '0' :: c :: ds => if (baseLetters base).contains c then ds else '0' :: c :: ds
  | ds => ds

/-- A digit of a base up to sixteen. -/
def isDigitOf (base : Nat) (c : Char) : Bool := isHexDigit c && hexDigitValue c < base

/-- The integer that a text writes in a base. Only so many decimal digits are read. -/
def integer? (base : Nat) (cs : List Char) : Option Int :=
  let (negative, body) := signAndBody cs
  let ds := dropBase base body
  if ds.isEmpty || !ds.all (isDigitOf base) || (base == 10 && maxDigits < ds.length) then none
  else
    let n : Nat := ds.foldl (fun n c => n * base + hexDigitValue c) 0
    some (if negative then -n else n)

/-- The number that a text writes in small letters, with or without a point, or one of the words for
those that are not finite. -/
def number? (cs : List Char) : Option Binary64 :=
  let (negative, body) := signAndBody cs
  if ["inf", "infinity"].contains (String.ofList body) then some (.infinite negative)
  else if body = "nan".toList then some .nan
  else (Decimal.ofText? negative body).map .ofDecimal

end ClusterPilot.Number
