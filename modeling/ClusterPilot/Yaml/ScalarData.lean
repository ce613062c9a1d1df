/-
The data that the text of a scalar stands for under its tag. A text that has the form of a value
may still be none: a date that the calendar does not have, or more digits than are read.
-/
import ClusterPilot.Config.Data
import ClusterPilot.Number.Literal
import ClusterPilot.Text.Base64
import ClusterPilot.Yaml.Tag
import ClusterPilot.Yaml.Token

namespace ClusterPilot.Yaml

open ClusterPilot.Number

namespace ScalarData

/-- A number without its underscores: whether it is negative, and what follows the sign. -/
def signed (cs : List Char) : Except Error (Bool × List Char) :=
  match cs.filter (· ≠ '_') with
  | [] => .error .emptyNumber
  | c :: rest => .ok (c = '-', if c = '-' ∨ c = '+' then rest else c :: rest)

/-- What is written, or an error when it writes nothing. -/
def orNone {α : Type} (written : Option α) : Except Error α :=
  match written with
  | some a => .ok a
  | none => .error .noSuchValue

/-- Adds up integers to the base of sixty, the highest one first. -/
def sixties (places : List Int) : Int := places.foldl (fun n d => n * 60 + d) 0

/-- An integer in any of the five notations. What follows the sign or the announcement of the base
may have a sign or an announcement of its own. -/
def integer (cs : List Char) : Except Error Int := do
  let (negative, body) ← signed cs
  let n ←
    match body with
    | [] => throw .emptyNumber
    | ['0'] => pure 0
    | '0' :: 'b' :: ds => orNone (integer? 2 ds)
    | '0' :: 'x' :: ds => orNone (integer? 16 ds)
    | '0' :: ds => orNone (integer? 8 ('0' :: ds))
    | _ =>
      if body.contains ':' then sixties <$> (Tag.parts body).mapM fun part => orNone (integer? 10 part)
      else orNone (integer? 10 body)
  pure (if negative then -n else n)

/-- Adds numbers to the base of sixty to a total, the lowest one first, where `unit` is the value of
one in its place. A unit is rounded before it counts, and so is every sum. -/
def addPlaces (total : Binary64) (unit : Nat) : List Binary64 → Except Error Binary64
  | [] => .ok total
  | place :: places =>
    match (Binary64.ofQuotient unit 1).toInt? with
    | some rounded => addPlaces (total.add (place.scale rounded.toNat)) (unit * 60) places
    | none => .error .hugePlace

/-- A number with a point in any of the notations. -/
def number (cs : List Char) : Except Error Binary64 := do
  let (negative, body) ← signed (cs.map Char.toLower)
  if body = ".nan".toList then pure .nan
  else
    let x ←
      if body = ".inf".toList then pure (.infinite false)
      else if body.contains ':' then do
        let places ← (Tag.parts body).mapM fun part => orNone (number? part)
        addPlaces (.finite false 0 0) 1 places.reverse
      else orNone (number? body)
    pure (if negative then x.negate else x)

/-- Whether the calendar and the clock have a date, and its zone is less than a day away. -/
def isReal (d : DateParts) : Bool :=
  let day := d.day.map (ofDigits 10)
  let leap (y : Nat) : Bool := y % 4 == 0 && (y % 100 != 0 || y % 400 == 0)
  let days (y m : Nat) : Nat :=
    if m == 2 then (if leap y then 29 else 28) else if [4, 6, 9, 11].contains m then 30 else 31
  let onCalendar := match day with
    | [y, m, d] => 1 ≤ y && 1 ≤ m && m ≤ 12 && 1 ≤ d && d ≤ days y m
    | _ => false
  let onClock := match d.time.map (ofDigits 10) with
    | [h, m, s] => h < 24 && m < 60 && s < 60
    | _ => true
  let inZone := match d.zone.map (ofDigits 10) with
    | [h] => h < 24
    | [h, m] => h * 60 + m < 24 * 60
    | _ => true
  onCalendar && onClock && inZone

/-- A boolean in any case. -/
def boolean (cs : List Char) : Except Error Bool :=
  let word := String.ofList (cs.map Char.toLower)
  if Tag.boolWords.1.contains word then .ok true
  else if Tag.boolWords.2.contains word then .ok false
  else .error .noSuchBoolean

/-- Bytes written as text. -/
def binary (cs : List Char) : Except Error (List UInt8) :=
  match if cs.all (·.toNat < 128) then Text.Base64.decode? cs else none with
  | some bytes => .ok bytes
  | none => .error .badBinary

/-- A date. -/
def date (cs : List Char) : Except Error Unit :=
  match DateParts.ofText? (Tag.dropFeed cs) with
  | some d => if isReal d then .ok () else .error .noSuchValue
  | none => .error .noSuchDate

/-- The data of a scalar. -/
def ofText (tag : Tag) (cs : List Char) : Except Error Data :=
  match tag with
  | .null => .ok .null
  | .bool => .bool <$> boolean cs
  | .integer => .integer <$> integer cs
  | .number => .number <$> number cs
  | .binary => .bytes <$> binary cs
  | .date => (fun _ => .date) <$> date cs
  | .text => .ok (.text (String.ofList cs))
  | .sequence | .mapping | .set | .pairs => .error .mismatchedTag
  | .merge | .value | .unknown => .error .unknownTag

end ScalarData

end ClusterPilot.Yaml
