/-
The outcome of creating a cluster. A tool that failed and a tool whose answer could not be read are
told apart: only the second one may have left a cluster behind.
-/
import ClusterPilot.Cluster.Basic
import ClusterPilot.Failure

namespace ClusterPilot

/-- How the creation of a cluster ended. -/
inductive CreationStatus where
  | created
  /-- The tool failed. -/
  | unsuccessful
  /-- The tool ended well, and its answer could not be read. -/
  | unreadable
  /-- The command was only announced. -/
  | announced
  deriving DecidableEq, Repr

/-- The outcome of creating a cluster, with what there is to show for it. -/
structure Creation where
  status : CreationStatus
  cluster : Option Cluster := none
  output : String := ""
  error : Option Failure := none

namespace Creation

/-- Whether nothing went wrong. -/
def ok (c : Creation) : Bool := c.status = .created || c.status = .announced

/-- The created cluster; none when the tool failed or the command was only announced, and the
failure when the answer could not be read. -/
def get (c : Creation) : Except Failure (Option Cluster) :=
  if c.status = .unreadable then .error (c.error.getD .unexplained) else .ok c.cluster

end Creation

end ClusterPilot
