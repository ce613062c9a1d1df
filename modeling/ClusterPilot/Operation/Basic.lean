/-
Operations on clusters, their replies, and how an operation is performed under some settings. What
a caller got wrong is found before anything is run or announced.
-/
import ClusterPilot.Operation.Plan

namespace ClusterPilot

open Tool (Mode Performed Plan Runner)

/-- An operation on clusters. -/
inductive Operation where
  | create (name region : String) (options : Option OptionMap)
  | delete (name region : String) (options : Option OptionMap)
  | submit (kind : String) (file : Option String) (region : String) (options : Option OptionMap)
      (arguments : List String)
  | list (project region : String) (filters : Option OptionMap)
  | master (project region name : String)
  | updateMetadata (node : String) (options : Option OptionMap) (key value : String)
  | find (project region name : String)

/-- The reply to an operation. -/
inductive Reply where
  | creation (c : Creation)
  /-- Whether the tool did what it should. -/
  | done (ok : Bool)
  | clusters (cs : List Cluster)
  /-- A machine, unless the command was only announced. -/
  | node (name : Option String)
  | cluster (c : Option Cluster)

/-- The mode that settings ask for. -/
def Settings.mode (s : Settings) : Mode := ⟨s.dryRun, s.verbose⟩

namespace Operation

/-- The plan of an operation. -/
def plan (s : Settings) : Operation → Except Misuse (Plan Reply)
  | create name region options => .ok ((createPlan s name region options).map .creation)
  | delete name region options => .ok ((deletePlan s name region options).map .done)
  | submit kind file region options arguments =>
    (submitPlan s kind file region options arguments).map (·.map .done)
  | list project region filters => .ok ((listPlan s project region filters).map .clusters)
  | master project region name => .ok ((masterPlan s project region name).map .node)
  | updateMetadata node options key value =>
    .ok ((updateMetadataPlan s node options key value).map .done)
  | find project region name => .ok ((findPlan s project region name).map .cluster)

/-- Performs an operation. -/
def perform (s : Settings) (runner : Runner) (op : Operation) : Performed Reply :=
  match op.plan s with
  | .ok p => p.perform s.mode runner
  | .error m => { result := .error (.ofMisuse m) }

end Operation

end ClusterPilot
