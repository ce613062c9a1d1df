/-
What a command line leaves behind: the texts it printed, the runs of the tool, and how it ended.
-/
import ClusterPilot.Config.Load
import ClusterPilot.Tool.Plan

namespace ClusterPilot.CommandLine

/-- What ends a command line without an exit status of its own. -/
inductive Escape where
  /-- The configuration could not be loaded. -/
  | load (e : Config.LoadError)
  | failure (f : Failure)
  deriving Repr

/-- What a command line leaves behind. -/
structure Report where
  stdout : String := ""
  stderr : String := ""
  runs : List Tool.Run := []
  /-- The exit status. -/
  ending : Except Escape Int

/-- A command line that is not acted on. -/
inductive Usage where
  /-- It asks for help. -/
  | help
  /-- It is not one that can be acted on. -/
  | refused
  deriving DecidableEq, Repr

/-- The exit status of a command line that is not acted on. -/
def Usage.status : Usage → Int
  | help => 0
  | refused => 2

/-- The words that ask for help. -/
def helpNames : List String := ["-h", "--help"]

/-- A line of text. -/
def line (s : String) : String := s ++ "\n"

/-- A line that tells of an error. -/
def errorLine (s : String) : String := line ("[ERROR] " ++ s)

end ClusterPilot.CommandLine
