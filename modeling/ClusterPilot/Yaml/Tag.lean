/-
What a node of a YAML text stands for. A tag names it; a plain scalar without a tag tells it by its
form. No form belongs to two tags, and a text that has none of the forms is a text.
-/
import ClusterPilot.Number.Decimal
import ClusterPilot.Text.Basic

namespace ClusterPilot.Yaml

open ClusterPilot.Number

/-- What a node stands for. -/
inductive Tag where
  | null
  | bool
  | integer
  | number
  | binary
  | date
  | text
  | sequence
  | mapping
  | set
  /-- A list of mappings with one entry each, with distinct keys or without that promise. -/
  | pairs
  /-- The key under which other mappings are merged in. -/
  | merge
  /-- The key of a default value. -/
  | value
  | unknown
  deriving DecidableEq, Repr

namespace Tag

/-- What the names of the standard tags start with. -/
def standard : List Char := "tag:yaml.org,2002:".toList

/-- The standard tags. -/
def standardTags : List (String × Tag) := [
  ("null", null), ("bool", bool), ("int", integer), ("float", number), ("binary", binary),
  ("timestamp", date), ("str", text), ("seq", sequence), ("map", mapping), ("set", set),
  ("omap", pairs), ("pairs", pairs), ("merge", merge), ("value", value)]

/-- The tag with a whole name. -/
def ofName (name : List Char) : Tag :=
  let known := standardTags.lookup (String.ofList (name.drop standard.length))
  if standard.isPrefixOf name then known.getD unknown else unknown

/-- A tag of data that hold other data; such data are no keys. -/
def isCollection : Tag → Bool
  | sequence | mapping | set | pairs => true
  | _ => false

/-! ## The forms of plain scalars -/

/-- A digit or an underscore. -/
def isDigitOrLine (c : Char) : Bool := isDigit c || c = '_'

/-- A text that is not empty and all of one class. -/
def allOf (p : Char → Bool) (cs : List Char) : Bool := !cs.isEmpty && cs.all p

/-- A text without the sign in front of it. -/
def dropSign : List Char → List Char
  | '+' :: cs => cs
  | '-' :: cs => cs
  | cs => cs

/-- The parts of a text between colons. -/
def parts (cs : List Char) : List (List Char) := cs.splitOn ':'

/-- One or two digits, below sixty. -/
def isSixtieth : List Char → Bool
  | [c] => isDigit c
  | [b, c] => '0' ≤ b && b ≤ '5' && isDigit c
  | _ => false

/-- A digit, and digits and underscores after it. -/
def isRun : List Char → Bool
  | c :: cs => isDigit c && cs.all isDigitOrLine
  | [] => false

/-- The forms of integers: binary, octal, hexadecimal, decimal, and to the base of sixty. -/
def isInteger (cs : List Char) : Bool :=
  match dropSign cs with
  | ['0'] => true
  | '0' :: 'b' :: ds => allOf (fun c => c = '0' || c = '1' || c = '_') ds
  | '0' :: 'x' :: ds => allOf (fun c => isHexDigit c || c = '_') ds
  | '0' :: ds => allOf (fun c => ('0' ≤ c && c ≤ '7') || c = '_') ds
  | ds =>
    match parts ds with
    | whole :: sixtieths => isRun whole && sixtieths.all isSixtieth
    | [] => false

/-- What may follow the digits after a point: nothing, or a power of ten with its sign. -/
def isSignedPower : List Char → Bool
  | [] => true
  | e :: s :: ds => (e = 'e' || e = 'E') && (s = '+' || s = '-') && allOf isDigit ds
  | _ => false

/-- What may follow a point. -/
def isFraction (cs : List Char) : Bool := isSignedPower (cs.dropWhile isDigitOrLine)

/-- The forms of numbers with a point: decimal, to the base of sixty, and the names of the values
that are not finite. -/
def isNumber (cs : List Char) : Bool :=
  let names := [".nan", ".NaN", ".NAN"]
  let signedNames := [".inf", ".Inf", ".INF"]
  names.contains (String.ofList cs) || signedNames.contains (String.ofList (dropSign cs))
    || match cs with
      | '.' :: ds => (ds.head?.any isDigit) && isFraction ds
      | _ =>
        match Text.cut '.' (dropSign cs) with
        | (_, none) => false
        | (whole, some fraction) =>
          match parts whole with
          | [run] => isRun run && isFraction fraction
          | run :: sixtieths => isRun run && sixtieths.all isSixtieth && fraction.all isDigitOrLine
          | [] => false

/-- The words for booleans, true ones first. -/
def boolWords : List String × List String :=
  (["yes", "Yes", "YES", "true", "True", "TRUE", "on", "On", "ON"],
    ["no", "No", "NO", "false", "False", "FALSE", "off", "Off", "OFF"])

/-- The words for nothing. -/
def nullWords : List String := ["", "~", "null", "Null", "NULL"]

/-- The signs that start an anchor, an alias or a tag. By themselves they have a form and no
meaning. -/
def signs : List String := ["!", "&", "*"]

end Tag

/-! ## Dates -/

/-- The parts of a date: year, month and day, the hour, minute and second when there is a time, and
the hours and minutes of its zone when the zone has a number. -/
structure DateParts where
  /-- The digits of year, month and day. -/
  day : List (List Char)
  /-- The digits of hour, minute and second. -/
  time : List (List Char)
  /-- The digits of the hours and minutes of the zone. -/
  zone : List (List Char)
  deriving DecidableEq, Repr

namespace DateParts

/-- Digits at the front, at least `least` and at most `most` of them. -/
def digits? (least most : Nat) (cs : List Char) : Option (List Char × List Char) :=
  let ds := (cs.take most).takeWhile isDigit
  if ds.length < least then none else some (ds, cs.drop ds.length)

/-- What follows a given character. -/
def after? (c : Char) : List Char → Option (List Char)
  | x :: cs => if x = c then some cs else none
  | [] => none

/-- Whether a character is a blank or a tab. -/
def isSpace (c : Char) : Bool := c = ' ' || c = '\t'

/-- The zone at the end of a date. -/
def zone? (cs : List Char) : Option (List (List Char)) :=
  match cs.dropWhile isSpace with
  | [] => if cs.isEmpty then some [] else none
  | ['Z'] => some []
  | s :: cs =>
    if s = '+' ∨ s = '-' then do
      let (hours, cs) ← digits? 1 2 cs
      if cs.isEmpty then some [hours]
      else
        let (minutes, cs) ← digits? 2 2 (← after? ':' cs)
        if cs.isEmpty then some [hours, minutes] else none
    else none

/-- The time after a day: its parts and those of its zone. -/
def time? (cs : List Char) : Option (List (List Char) × List (List Char)) := do
  let cs ←
    match cs with
    | c :: rest =>
      if c = 'T' ∨ c = 't' then some rest
      else if isSpace c then some (rest.dropWhile isSpace)
      else none
    | [] => none
  let (hour, cs) ← digits? 1 2 cs
  let (minute, cs) ← digits? 2 2 (← after? ':' cs)
  let (second, cs) ← digits? 2 2 (← after? ':' cs)
  let cs := match cs with
    | '.' :: rest => rest.dropWhile isDigit
    | _ => cs
  some ([hour, minute, second], ← zone? cs)

/-- The parts of a text that has the form of a date. -/
def ofText? (cs : List Char) : Option DateParts := do
  let (year, cs) ← digits? 4 4 cs
  let (month, cs) ← digits? 1 2 (← after? '-' cs)
  let (day, cs) ← digits? 1 2 (← after? '-' cs)
  if cs.isEmpty then some ⟨[year, month, day], [], []⟩
  else
    let (time, zone) ← time? cs
    some ⟨[year, month, day], time, zone⟩

/-- A day alone has to be written with two digits for the month and two for the day, where no tag
says that it is one. -/
def isFull (d : DateParts) : Bool :=
  !d.time.isEmpty || d.day.map List.length == [4, 2, 2]

end DateParts

namespace Tag

/-- A text without the line feed at its end, unless that is all of it. The forms are looked for up
to there. -/
def dropFeed (cs : List Char) : List Char :=
  if cs.getLast? = some '\n' ∧ cs ≠ ['\n'] then cs.dropLast else cs

/-- What a text in one of the forms stands for. -/
def ofForm (cs : List Char) : Tag :=
  let s := String.ofList cs
  if boolWords.1.contains s || boolWords.2.contains s then bool
  else if nullWords.contains s then null
  else if isInteger cs then integer
  else if isNumber cs then number
  else if (DateParts.ofText? cs).any DateParts.isFull then date
  else if s = "<<" then merge
  else if s = "=" then value
  else if signs.contains s then unknown
  else text

/-- What a plain scalar without a tag stands for. -/
def ofPlain (cs : List Char) : Tag := ofForm (dropFeed cs)

end Tag

end ClusterPilot.Yaml
