/-
The words of a command line by what they are. A word that starts with a dash names an option, with
or without a value attached by `=`; one that is a negative number, or has a blank in it, is a value
all the same.
-/
import ClusterPilot.Number.Decimal
import ClusterPilot.Text.Basic

namespace ClusterPilot.CommandLine

/-- What a word of a command line is. -/
inductive Word where
  | value
  | option (name : String) (attached : Option String)
  /-- The word after which all others are values. -/
  | stop
  /-- The name of no option. -/
  | unknown
  /-- The beginning of the names of several options. -/
  | ambiguous
  deriving DecidableEq, Repr

namespace Word

/-- A negative number: digits after a dash, which a point may stand before or between. -/
def isNegativeNumber (cs : List Char) : Bool :=
  match cs with
  | '-' :: ds =>
    match Text.cut '.' ds with
    | (whole, none) => !whole.isEmpty && whole.all Number.isDigit
    | (whole, some fraction) =>
      whole.all Number.isDigit && !fraction.isEmpty && fraction.all Number.isDigit
  | _ => false

/-- The options that a name may stand for: the one with this name, or else, where names may be
shortened, those that start with it. -/
def named (options : List String) (shortened : Bool) (name : List Char) : List String :=
  if options.contains (String.ofList name) then [String.ofList name]
  else if shortened && ['-', '-'].isPrefixOf name then
    options.filter fun o => name.isPrefixOf o.toList
  else []

/-- What a word is where there are given options. -/
def ofString (options : List String) (shortened : Bool) (w : String) : Word :=
  let cs := w.toList
  if cs.head? ≠ some '-' ∨ cs.length = 1 then .value
  else if w = "--" then .stop
  else if options.contains w then .option w none
  else
    let (name, attached) := Text.cut '=' cs
    match named options shortened name with
    | [o] => .option o (attached.map String.ofList)
    | _ :: _ :: _ => .ambiguous
    | [] => if isNegativeNumber cs || cs.contains ' ' then .value else .unknown

end Word

end ClusterPilot.CommandLine
