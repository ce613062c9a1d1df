/-
The command lines of the cluster tool. Every command has one layout: the executable, the account
when there is one, the words of the subcommand, `--quiet`, the options in the order of their map,
and, after a lone `--`, the arguments that are passed through.
-/
import ClusterPilot.OptionMap

namespace ClusterPilot

/-- A text that is present and not empty. -/
def nonEmpty? : Option String → Option String
  | some s => if s = "" then none else some s
  | none => none

namespace Command

/-- One option as a word of a command: `--name=value`, or `--name` when the value is empty. -/
def option (name : String) (value : Option String) : String :=
  match nonEmpty? value with
  | some v => "--" ++ name ++ "=" ++ v
  | none => "--" ++ name

/-- The word that keeps the tool from asking back. -/
def quiet : String := option "quiet" none

/-- The word between the options and the arguments that are passed through. -/
def separator : String := "--"

/-- What stands in a filter for a value that may be anything. -/
def wildcard : String := "*"

/-- One clause of a filter. -/
def clause (entry : String × Option String) : String :=
  entry.1 ++ " = " ++ (nonEmpty? entry.2).getD wildcard

/-- The filter that all clauses of a map have to meet. -/
def filter (filters : OptionMap) : String :=
  " AND ".intercalate (filters.entries.map clause)

/-- The words that choose the account. -/
def accountWords (account : Option String) : List String :=
  match nonEmpty? account with
  | some id => ["--account", id]
  | none => []

/-- The words after the options. -/
def passedWords (arguments : List String) : List String :=
  if arguments.isEmpty then [] else separator :: arguments

/-- The words of a command. -/
def words (executable : String) (account : Option String) (subcommand : List String)
    (options : OptionMap) (arguments : List String) : List String :=
  executable :: accountWords account ++ subcommand
    ++ quiet :: options.entries.map (fun e => option e.1 e.2) ++ passedWords arguments

end Command

end ClusterPilot
