/-
Numbers of the binary64 format of IEEE 754, as exact values: a finite one is an integer times a
power of two. `ofDecimal` takes the nearest such number, and of two equally near ones the one with
the even significand; what would need an exponent beyond the largest becomes infinite.
-/
import ClusterPilot.Number.Decimal

namespace ClusterPilot.Number

/-- A binary64 number, a zero without its sign. -/
inductive Binary64 where
  /-- The value `± significand · 2 ^ exponent`. -/
  | finite (negative : Bool) (significand : Nat) (exponent : Int)
  | infinite (negative : Bool)
  | nan
  deriving DecidableEq, Repr

/-- A power of two. -/
def twoTo (n : Nat) : Nat := Nat.pow 2 n

/-- A power of ten. -/
def tenTo (n : Nat) : Nat := Nat.pow 10 n

namespace Binary64

/-- The integer nearest to a quotient; of two equally near ones, the even one. -/
def roundDiv (num den : Nat) : Nat :=
  let q := num / den
  let r := num % den
  if 2 * r < den then q
  else if den < 2 * r then q + 1
  else if q % 2 = 0 then q else q + 1

/-- The number nearest to `num / den`, for a positive quotient. -/
def ofRatio (negative : Bool) (num den : Nat) : Binary64 :=
  -- `2 ^ e ≤ num / den < 2 ^ (e + 2)`, so that the significand has 53 or 54 bits
  let e : Int := (num.log2 : Int) - den.log2 - 1
  let shift : Int := max (e - 52) (-1074)
  let rounded (s : Int) : Nat :=
    if 0 ≤ s then roundDiv num (den * twoTo s.toNat) else roundDiv (num * twoTo (-s).toNat) den
  let floor (s : Int) : Nat :=
    if 0 ≤ s then num / (den * twoTo s.toNat) else num * twoTo (-s).toNat / den
  let s := if floor shift < twoTo 53 then shift else shift + 1
  let m := rounded s
  -- the largest finite number is just below `2 ^ 1024`
  if 0 ≤ s ∧ twoTo 1024 ≤ m * twoTo s.toNat then .infinite negative else .finite negative m s

/-- The binary64 number nearest to a decimal value. -/
def ofDecimal (d : Decimal) : Binary64 :=
  if d.digits = 0 then .finite d.negative 0 0
  else
    -- the value lies between `10 ^ (magnitude - 1)` and `10 ^ magnitude`
    let magnitude : Int := d.exponent + (Nat.toDigits 10 d.digits).length
    if 310 < magnitude then .infinite d.negative
    else if magnitude < -330 then .finite d.negative 0 0
    else if 0 ≤ d.exponent then ofRatio d.negative (d.digits * tenTo d.exponent.toNat) 1
    else ofRatio d.negative d.digits (tenTo (-d.exponent).toNat)

/-- A finite number as an integer and a power of two to divide it by; nothing otherwise. -/
def ratio? : Binary64 → Option (Int × Nat)
  | finite negative m e =>
    let signed : Int := if negative then -m else m
    some (if 0 ≤ e then (signed * twoTo e.toNat, 1) else (signed, twoTo (-e).toNat))
  | infinite _ | nan => none

/-- The number nearest to a quotient of integers. -/
def ofQuotient (num : Int) (den : Nat) : Binary64 :=
  if num = 0 then .finite false 0 0 else ofRatio (num < 0) num.natAbs den

/-- The sum of two numbers, rounded. -/
def add (x y : Binary64) : Binary64 :=
  match x, y with
  | nan, _ | _, nan => nan
  | infinite a, infinite b => if a = b then infinite a else nan
  | infinite a, finite .. => infinite a
  | finite .., infinite b => infinite b
  | finite .., finite .. =>
    match x.ratio?, y.ratio? with
    | some (a, b), some (c, d) => ofQuotient (a * d + c * b) (b * d)
    | _, _ => nan

/-- A number with the other sign. -/
def negate : Binary64 → Binary64
  | finite negative m e => finite (!negative) m e
  | infinite negative => infinite (!negative)
  | nan => nan

/-- A number times a natural number, rounded. -/
def scale (x : Binary64) (n : Nat) : Binary64 :=
  match x.ratio? with
  | some (a, b) => ofQuotient (a * n) b
  | none => x

/-- The number without its fraction, when it is finite. -/
def truncate? : Binary64 → Option Int
  | finite negative m e =>
    let n : Nat := if 0 ≤ e then m * twoTo e.toNat else m / twoTo (-e).toNat
    some (if negative then -(n : Int) else n)
  | infinite _ | nan => none

/-- A finite number that has no fraction. -/
def isIntegral : Binary64 → Bool
  | finite _ m e => 0 ≤ e || m % twoTo (-e).toNat == 0
  | infinite _ | nan => false

/-- The integer that a number is equal to. -/
def toInt? (x : Binary64) : Option Int := if x.isIntegral then x.truncate? else none

end Binary64

end ClusterPilot.Number
