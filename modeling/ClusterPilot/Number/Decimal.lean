/-
Numbers written in decimal: digits, and a value with a power of ten. Reading digits from left to
right and writing them again agree up to leading zeros.
-/
namespace ClusterPilot.Number

/-- One of the ten ASCII digits. -/
def isDigit (c : Char) : Bool := '0' ≤ c && c ≤ '9'

/-- The value of a digit. -/
def digitValue (c : Char) : Nat := c.toNat - '0'.toNat

/-- The number that a run of digits writes in a base up to ten. -/
def ofDigits (base : Nat) (cs : List Char) : Nat :=
  cs.foldl (fun n c => n * base + digitValue c) 0

/-- The longest run of decimal digits that is read as an integer. -/
def maxDigits : Nat := 4300

/-- The digits at the front, when there is one, and what follows them. -/
def digits? (cs : List Char) : Option (List Char × List Char) :=
  let ds := cs.takeWhile isDigit
  if ds.isEmpty then none else some (ds, cs.dropWhile isDigit)

/-- The power of ten of a number that ends with it; a missing one is zero. -/
def exponent? : List Char → Option Int
  | [] => some 0
  | c :: cs =>
    let whole (ds : List Char) : Option Nat :=
      (digits? ds).bind fun r => if r.2.isEmpty then some (ofDigits 10 r.1) else none
    if c = 'e' ∨ c = 'E' then
      match cs with
      | '-' :: ds => (whole ds).map fun n => -(n : Int)
      | '+' :: ds => (whole ds).map fun n => (n : Int)
      | ds => (whole ds).map fun n => (n : Int)
    else none

/-- One of the hexadecimal digits, in either case. -/
def isHexDigit (c : Char) : Bool :=
  isDigit c || ('a' ≤ c && c ≤ 'f') || ('A' ≤ c && c ≤ 'F')

/-- The value of a hexadecimal digit. -/
def hexDigitValue (c : Char) : Nat :=
  if isDigit c then digitValue c
  else if 'a' ≤ c then c.toNat - 'a'.toNat + 10
  else c.toNat - 'A'.toNat + 10

/-- The number that a run of hexadecimal digits writes. -/
def ofHexDigits (cs : List Char) : Nat := cs.foldl (fun n c => n * 16 + hexDigitValue c) 0

/-- The value `± digits · 10 ^ exponent`. -/
structure Decimal where
  negative : Bool
  digits : Nat
  exponent : Int
  deriving DecidableEq, Repr

/-- The value of a number written with a point: the digits before it, those after it, and the
power of ten that follows. -/
def Decimal.ofParts (negative : Bool) (whole fraction : List Char) (exponent : Int) : Decimal :=
  ⟨negative, ofDigits 10 (whole ++ fraction), exponent - fraction.length⟩

/-- The value of a number written in any of the usual ways: with or without a point, with digits on
one side of it at least, and with or without a power of ten. -/
def Decimal.ofText? (negative : Bool) (cs : List Char) : Option Decimal := do
  let whole := cs.takeWhile isDigit
  let rest := cs.dropWhile isDigit
  let (fraction, rest) := match rest with
    | '.' :: ds => (ds.takeWhile isDigit, ds.dropWhile isDigit)
    | _ => ([], rest)
  if whole.isEmpty && fraction.isEmpty then none
  else some (.ofParts negative whole fraction (← exponent? rest))

end ClusterPilot.Number
