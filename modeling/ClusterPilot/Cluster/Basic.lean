/-
A cluster as the provider describes it: its name, its labels, the state it is in, and its groups
of machines.
-/
import ClusterPilot.OptionMap

namespace ClusterPilot

/-- A group of machines that play one role in a cluster. -/
structure NodeGroup where
  count : Option Int
  /-- The names of the machines, in order. -/
  instances : List String
  machineType : Option String
  image : Option String

/-- The state of a cluster. -/
structure ClusterState where
  name : Option String
  detail : Option String
  since : Option String

/-- How a cluster is set up. -/
structure ClusterSetup where
  bucket : Option String
  master : NodeGroup
  workers : Option NodeGroup

/-- A snapshot of a cluster. -/
structure Cluster where
  name : String
  project : Option String
  uuid : Option String
  labels : OrderedMap String
  state : Option ClusterState
  setup : ClusterSetup

/-- The names of the master machines, in order. -/
def Cluster.masters (c : Cluster) : List String := c.setup.master.instances

end ClusterPilot
