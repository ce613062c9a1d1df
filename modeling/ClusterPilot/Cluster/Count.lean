/-
Integers in a description, as lenient as their senders need. A boolean counts as one or zero; a
number with a point counts when it has no fraction and fits 64 bits; a text counts when it writes an
integer, possibly with blanks around it, a plus sign, leading zeros, single underscores between
digits, or a point with zeros after it.
-/
import ClusterPilot.Json.Value
import ClusterPilot.Fault
import ClusterPilot.Text.Basic

namespace ClusterPilot.Count

open ClusterPilot.Number

/-- The characters with the Unicode property White_Space. -/
def isWhiteSpace (c : Char) : Bool :=
  let n := c.toNat
  (9 ≤ n && n ≤ 13) || n == 0x20 || n == 0x85 || n == 0xa0 || n == 0x1680
    || (0x2000 ≤ n && n ≤ 0x200a) || n == 0x2028 || n == 0x2029 || n == 0x202f || n == 0x205f
    || n == 0x3000

/-- A text without the white space at either end. -/
def strip (cs : List Char) : List Char := Text.trimWhile isWhiteSpace cs

/-! ## An integer as JSON writes it -/

/-- How a text can fail to write an integer. -/
inductive Misfit where
  | unreadable
  | tooLong
  deriving DecidableEq, Repr

/-- The integer that a text writes by the rules of JSON. A text is too long when it starts as an
integer that the rules allow and has more characters than they read. -/
def literal (cs : List Char) : Except Misfit Int :=
  let negative := cs.head? = some '-'
  let body := if negative then cs.drop 1 else cs
  match Json.wholeDigits? body with
  | none => .error .unreadable
  | some (whole, rest) =>
    if Json.maxIntegerLength < whole.length + (if negative then 1 else 0) then .error .tooLong
    else if rest.isEmpty then
      let n : Int := ofDigits 10 whole
      .ok (if negative then -n else n)
    else .error .unreadable

/-! ## The looser spelling -/

/-- Digits without the zeros in front. Underscores may stand among those zeros; when there is no
other digit the last character is kept, and the character before a point is kept too. -/
def dropZeros? : List Char → Option (List Char)
  | [] => none
  | '0' :: cs => go '0' cs
  | c :: cs => if '1' ≤ c && c ≤ '9' then some (c :: cs) else none
where
  /-- After zeros and underscores, of which `last` was the last. -/
  go (last : Char) : List Char → Option (List Char)
    | [] => some [last]
    | c :: cs =>
      if c = '0' ∨ c = '_' then go c cs
      else if '1' ≤ c && c ≤ '9' then some (c :: cs)
      else if c = '.' then some (last :: c :: cs)
      else none

/-- Digits without a point that has only zeros, and at least one, after it. -/
def dropZeroFraction (cs : List Char) : List Char :=
  match cs.dropWhile (· ≠ '.') with
  | _ :: fraction =>
    if !fraction.isEmpty && fraction.all (· = '0') then cs.takeWhile (· ≠ '.') else cs
  | [] => cs

/-- Whether each underscore stands between two other characters. -/
def separatesWell : List Char → Bool
  | [] => true
  | ['_'] => false
  | '_' :: _ => false
  | _ :: '_' :: cs => separatesWell cs && !cs.isEmpty
  | _ :: cs => separatesWell cs

/-- Digits without the underscores between them; misplaced ones stay. -/
def dropUnderscores (cs : List Char) : List Char :=
  if separatesWell cs then cs.filter (· ≠ '_') else cs

/-- The sign of a text and what follows it: a plus sign may not be followed by a minus sign. -/
def sign? : List Char → Option (Bool × List Char)
  | '+' :: '-' :: _ => none
  | '+' :: cs => some (false, cs)
  | '-' :: cs => some (true, cs)
  | cs => some (false, cs)

/-- The spelling of JSON for an integer in the looser one. -/
def normalize? (cs : List Char) : Option (List Char) := do
  let (negative, body) ← sign? (strip cs)
  let body ← dropZeros? body
  let body := dropUnderscores (dropZeroFraction body)
  some (if negative then '-' :: body else body)

/-- The integer that a text writes in either spelling. -/
def ofText (s : String) : Except Misfit Int :=
  match literal s.toList with
  | .ok n => .ok n
  | .error .tooLong => .error .tooLong
  | .error .unreadable =>
    match normalize? s.toList with
    | none => .error .unreadable
    | some cs => literal cs

/-! ## Any JSON value -/

/-- Numbers with a point count up to this size. -/
def maxNumber : Int := 9223372036854775808

/-- The integer that a number with a point is. -/
def ofNumber (x : Binary64) : Checked Int :=
  match x.truncate? with
  | none => .fault .infiniteNumber
  | some n =>
    if !x.isIntegral then .fault .fractionalNumber
    else if -maxNumber < n ∧ n < maxNumber then .ok n
    else .fault .hugeInteger

/-- The integer that a JSON value stands for. -/
def ofJson : Json.Value → Checked Int
  | .bool b => .ok (if b then 1 else 0)
  | .integer n => .ok n
  | .number x => ofNumber x
  | .text s =>
    match ofText s with
    | .ok n => .ok n
    | .error .tooLong => .fault .hugeInteger
    | .error .unreadable => .fault .unreadableInteger
  | .null | .list _ | .object _ => .fault .notInteger

end ClusterPilot.Count
