/-
Reading descriptions of clusters from JSON text. A field has two spellings, the one of the response
and the one of its name in words; the first is looked up first, and of repeated members the last
one counts. Members with other keys are ignored. Every field is checked, and the faults are
reported in the order of the fields, each at the spelling under which its value was found.
-/
import ClusterPilot.Cluster.Basic
import ClusterPilot.Cluster.Count

namespace ClusterPilot

open Json (Value)

/-- The two spellings of a field: as responses have it, and in words joined by underscores. -/
structure FieldName where
  inResponse : String
  inWords : String

namespace Response

/-- The members of a JSON object. -/
abbrev Members := List (String × Value)

/-- The last member with a key. -/
def last? (ms : Members) (key : String) : Option Value := ms.reverse.lookup key

/-- A field's value and the spelling it was found under. -/
def find? (ms : Members) (f : FieldName) : Option (String × Value) :=
  match last? ms f.inResponse with
  | some v => some (f.inResponse, v)
  | none => (last? ms f.inWords).map fun v => (f.inWords, v)

/-! ## Values of fields -/

/-- A text. -/
def text : Value → Checked String
  | .text s => .ok s
  | _ => .fault .notText

/-- A value that may be null. -/
def nullable {α : Type} (read : Value → Checked α) : Value → Checked (Option α)
  | .null => .ok none
  | v => (read v).map some

/-- The items of a list, all of one kind. -/
def listOf {α : Type} (read : Value → Checked α) : Value → Checked (List α)
  | .list vs => .all (vs.mapIdx fun i v => (read v).within (.index i))
  | _ => .fault .notList

/-- A map of texts. Every member is checked, also one whose key comes again. -/
def textMap : Value → Checked (OrderedMap String)
  | .object ms =>
    (Checked.all (ms.map fun m => ((text m.2).within (.key m.1)).map fun s => (m.1, s))).map .ofList
  | _ => .fault .notMap

/-- The members of a record. -/
def record {α : Type} (read : Members → Checked α) : Value → Checked α
  | .object ms => read ms
  | _ => .fault .notRecord

/-- A field that has to be there. -/
def required {α : Type} (read : Value → Checked α) (f : FieldName) (ms : Members) : Checked α :=
  match find? ms f with
  | some (key, v) => (read v).within (.key key)
  | none => (Checked.fault .missing).within (.key f.inResponse)

/-- A field with a value of its own when it is missing. -/
def withDefault {α : Type} (value : α) (read : Value → Checked α) (f : FieldName) (ms : Members) :
    Checked α :=
  match find? ms f with
  | some (key, v) => (read v).within (.key key)
  | none => .ok value

/-- A text that may be missing or null. -/
def optionalText (f : FieldName) (ms : Members) : Checked (Option String) :=
  withDefault none (nullable text) f ms

/-! ## The records -/

/-- A group of machines. -/
def nodeGroup (ms : Members) : Checked NodeGroup :=
  NodeGroup.mk
    <$> withDefault none (nullable Count.ofJson) ⟨"numInstances", "num_instances"⟩ ms
    <*> withDefault [] (listOf text) ⟨"instanceNames", "instance_names"⟩ ms
    <*> optionalText ⟨"machineTypeUri", "machine_type_uri"⟩ ms
    <*> optionalText ⟨"imageUri", "image_uri"⟩ ms

/-- The setup of a cluster. -/
def clusterSetup (ms : Members) : Checked ClusterSetup :=
  ClusterSetup.mk
    <$> optionalText ⟨"configBucket", "config_bucket"⟩ ms
    <*> required (record nodeGroup) ⟨"masterConfig", "master_config"⟩ ms
    <*> withDefault none (nullable (record nodeGroup)) ⟨"workerConfig", "worker_config"⟩ ms

/-- The state of a cluster. -/
def clusterState (ms : Members) : Checked ClusterState :=
  ClusterState.mk
    <$> optionalText ⟨"state", "state"⟩ ms
    <*> optionalText ⟨"detail", "detail"⟩ ms
    <*> optionalText ⟨"stateStartTime", "state_start_time"⟩ ms

/-- A cluster. -/
def cluster (ms : Members) : Checked Cluster :=
  Cluster.mk
    <$> required text ⟨"clusterName", "cluster_name"⟩ ms
    <*> optionalText ⟨"projectId", "project_id"⟩ ms
    <*> optionalText ⟨"clusterUuid", "cluster_uuid"⟩ ms
    <*> withDefault .empty textMap ⟨"labels", "labels"⟩ ms
    <*> withDefault none (nullable (record clusterState)) ⟨"status", "status"⟩ ms
    <*> required (record clusterSetup) ⟨"config", "config"⟩ ms

/-! ## Whole responses -/

/-- What a response text has to hold. -/
def ofText {α : Type} (read : Value → Checked α) (s : String) : Checked α :=
  match Value.read? s with
  | some v => read v
  | none => .fault .malformed

/-- The cluster that a response describes. -/
def one (s : String) : Checked Cluster := ofText (record cluster) s

/-- The clusters that a response lists. -/
def many (s : String) : Checked (List Cluster) := ofText (listOf (record cluster)) s

end Response

end ClusterPilot
