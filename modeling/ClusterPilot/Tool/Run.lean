/-
Runs of the cluster tool. A runner answers every run with the status and the output it ended with,
or with the failure to start or finish it; output that nobody asked for is not delivered.
-/
import ClusterPilot.Failure

namespace ClusterPilot.Tool

/-- A run: the words of the command, and whether its output is wanted. -/
structure Run where
  command : List String
  capture : Bool
  deriving DecidableEq, Repr

/-- How a run ended. A status below zero is the number of the signal that ended it, negated. -/
structure Exit where
  status : Int
  output : String := ""
  deriving DecidableEq, Repr

/-- The status of a run that did what it should. -/
def success : Int := 0

/-- Whether a run did what it should. -/
def Exit.ok (e : Exit) : Bool := e.status == success

/-- What answers runs. -/
abbrev Runner := Run → Except Failure Exit

/-- What a stand-in for the tool does whenever it is run. -/
inductive Stub where
  | exits (status : Int) (output : String)
  | doesNotStart (message : String)
  deriving DecidableEq, Repr

/-- The runner of a stand-in. -/
def Stub.runner : Stub → Runner
  | .exits status output, run => .ok ⟨status, if run.capture then output else ""⟩
  | .doesNotStart message, run => .error (.notStarted message run.command)

end ClusterPilot.Tool
