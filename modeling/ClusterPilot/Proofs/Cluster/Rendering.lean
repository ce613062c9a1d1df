/-
Clusters as JSON texts. A rendering of a cluster has a member for each of its fields, under either
spelling and in any order; what a field has no value for is null or left out, empty labels and
empty lists of machines may be left out too, and an integer is written as it is or as a text. Every
cluster has renderings, and none of them has more than four containers inside one another.
-/
import ClusterPilot.Proofs.Cluster.Field
import ClusterPilot.Proofs.Json.Reading

namespace ClusterPilot

open Json (Value)

namespace Response

/-! ## Values -/

/-- A value that is null when there is nothing to say. -/
def Nullable {α : Type} (means : α → Value → Prop) : Option α → Value → Prop
  | none, v => v = .null
  | some a, v => means a v

/-- A text and nothing else. -/
def IsText (s : String) (v : Value) : Prop := v = .text s

/-- An integer, as it is or as a text. -/
def IsCount (i : Int) (v : Value) : Prop :=
  v = .integer i ∨ v = .text (String.ofList (Number.decimal i))

/-- A list of texts in its order. -/
def IsTexts (ss : List String) (v : Value) : Prop := v = .list (ss.map .text)

/-- A map, entry by entry in its order. -/
def IsTextMap (m : OrderedMap String) (v : Value) : Prop :=
  v = .object (m.entries.map fun e => (e.1, .text e.2))

/-- An object with the members that some fields give. -/
def IsRecord (fields : List Field) (v : Value) : Prop := ∃ ms, v = .object ms ∧ Written fields ms

/-! ## Records -/

/-- A field that has to be there. -/
def Field.mandatory (name : FieldName) (values : Value → Prop) : Field := ⟨name, values, False⟩

/-- A field that is null or left out when there is nothing to say. -/
def Field.optional {α : Type} (name : FieldName) (means : α → Value → Prop) (o : Option α) :
    Field :=
  ⟨name, Nullable means o, o = none⟩

/-- What a description says of a group of machines. -/
def nodeGroupFields (g : NodeGroup) : List Field := [
  .optional ⟨"numInstances", "num_instances"⟩ IsCount g.count,
  ⟨⟨"instanceNames", "instance_names"⟩, IsTexts g.instances, g.instances = []⟩,
  .optional ⟨"machineTypeUri", "machine_type_uri"⟩ IsText g.machineType,
  .optional ⟨"imageUri", "image_uri"⟩ IsText g.image]

/-- What a description says of the setup of a cluster. -/
def clusterSetupFields (s : ClusterSetup) : List Field := [
  .optional ⟨"configBucket", "config_bucket"⟩ IsText s.bucket,
  .mandatory ⟨"masterConfig", "master_config"⟩ (IsRecord (nodeGroupFields s.master)),
  .optional ⟨"workerConfig", "worker_config"⟩ (fun g => IsRecord (nodeGroupFields g)) s.workers]

/-- What a description says of the state of a cluster. -/
def clusterStateFields (s : ClusterState) : List Field := [
  .optional ⟨"state", "state"⟩ IsText s.name,
  .optional ⟨"detail", "detail"⟩ IsText s.detail,
  .optional ⟨"stateStartTime", "state_start_time"⟩ IsText s.since]

/-- What a description says of a cluster. -/
def clusterFields (c : Cluster) : List Field := [
  .mandatory ⟨"clusterName", "cluster_name"⟩ (IsText c.name),
  .optional ⟨"projectId", "project_id"⟩ IsText c.project,
  .optional ⟨"clusterUuid", "cluster_uuid"⟩ IsText c.uuid,
  ⟨⟨"labels", "labels"⟩, IsTextMap c.labels, c.labels.entries = []⟩,
  .optional ⟨"status", "status"⟩ (fun s => IsRecord (clusterStateFields s)) c.state,
  .mandatory ⟨"config", "config"⟩ (IsRecord (clusterSetupFields c.setup))]

end Response

/-- The number of machines is no longer than the integers that are read. -/
def NodeGroup.CountFits (g : NodeGroup) : Prop := ∀ i, g.count = some i → Number.Fits i

/-- No number of machines is longer than the integers that are read. -/
def Cluster.CountsFit (c : Cluster) : Prop :=
  c.setup.master.CountFits ∧ ∀ g, c.setup.workers = some g → g.CountFits

/-- A text that describes a cluster. -/
def Cluster.Rendering (c : Cluster) (text : String) : Prop :=
  ∃ v, Response.IsRecord (Response.clusterFields c) v ∧ v.Writes text

/-- A text that lists descriptions of clusters, in order. -/
def Cluster.ListRendering (cs : List Cluster) (text : String) : Prop :=
  ∃ vs, List.Forall₂ (fun c v => Response.IsRecord (Response.clusterFields c) v) cs vs ∧
    (Value.list vs).Writes text

namespace Response

/-! ## The size of the values -/

theorem IsText.within {s : String} {v : Value} (h : IsText s v) (n : Nat) : v.Within n := by
  rw [h]; exact .text s

theorem IsCount.within {i : Int} {v : Value} (hfits : Number.Fits i) (h : IsCount i v) (n : Nat) :
    v.Within n := by
  rcases h with rfl | rfl
  · exact .integer hfits
  · exact .text _

theorem IsTexts.within {ss : List String} {v : Value} (h : IsTexts ss v) (n : Nat) :
    v.Within (n + 1) := by
  rw [h]
  refine .list fun w hw => ?_
  obtain ⟨s, -, rfl⟩ := List.mem_map.1 hw
  exact .text s

theorem IsTextMap.within {m : OrderedMap String} {v : Value} (h : IsTextMap m v) (n : Nat) :
    v.Within (n + 1) := by
  rw [h]
  refine .object fun e he => ?_
  obtain ⟨e, -, rfl⟩ := List.mem_map.1 he
  exact .text e.2

theorem Nullable.within {α : Type} {means : α → Value → Prop} {o : Option α} {v : Value}
    (h : Nullable means o v) {n : Nat} (hmeans : ∀ a, o = some a → ∀ v, means a v → v.Within n) :
    v.Within n := by
  cases o with
  | none => rw [h]; exact .null
  | some a => exact hmeans a rfl v h

/-- A record is one container around its fields. -/
theorem IsRecord.within {fields : List Field} {v : Value} (h : IsRecord fields v) {n : Nat}
    (hfields : ∀ f ∈ fields, ∀ v, f.values v → v.Within n) : v.Within (n + 1) := by
  obtain ⟨ms, rfl, pieces, hpieces, hperm⟩ := h
  refine .object fun m hm => ?_
  obtain ⟨f, hf, -, hv⟩ := exists_field_of_mem hpieces (hperm.subset hm)
  exact hfields f hf m.2 hv

theorem IsRecord.nodeGroup_within {g : NodeGroup} (hfits : g.CountFits) {v : Value}
    (h : IsRecord (nodeGroupFields g) v) : v.Within 2 := by
  refine h.within ?_
  simp only [nodeGroupFields, List.forall_mem_cons]
  refine ⟨fun v hv => ?_, fun v hv => IsTexts.within hv 0, fun v hv => ?_, fun v hv => ?_, nofun⟩
  · exact Nullable.within hv fun i hi _ hv => hv.within (hfits i hi) 1
  · exact Nullable.within hv fun _ _ _ hv => hv.within 1
  · exact Nullable.within hv fun _ _ _ hv => hv.within 1

theorem IsRecord.clusterSetup_within {s : ClusterSetup} (hmaster : s.master.CountFits)
    (hworkers : ∀ g, s.workers = some g → g.CountFits) {v : Value}
    (h : IsRecord (clusterSetupFields s) v) : v.Within 3 := by
  refine h.within ?_
  simp only [clusterSetupFields, List.forall_mem_cons]
  refine ⟨fun v hv => ?_, fun v hv => IsRecord.nodeGroup_within hmaster hv, fun v hv => ?_, nofun⟩
  · exact Nullable.within hv fun _ _ _ hv => hv.within 2
  · exact Nullable.within hv fun g hg _ hv => hv.nodeGroup_within (hworkers g hg)

theorem IsRecord.clusterState_within {s : ClusterState} {v : Value}
    (h : IsRecord (clusterStateFields s) v) (n : Nat) : v.Within (n + 1) := by
  refine h.within ?_
  simp only [clusterStateFields, List.forall_mem_cons]
  refine ⟨fun v hv => ?_, fun v hv => ?_, fun v hv => ?_, nofun⟩
  all_goals exact Nullable.within hv fun _ _ _ hv => hv.within n

theorem IsRecord.cluster_within {c : Cluster} (hfits : c.CountsFit) {v : Value}
    (h : IsRecord (clusterFields c) v) : v.Within 4 := by
  refine h.within ?_
  simp only [clusterFields, List.forall_mem_cons]
  refine ⟨fun v hv => IsText.within hv 3, fun v hv => ?_, fun v hv => ?_,
    fun v hv => IsTextMap.within hv 2, fun v hv => ?_,
    fun v hv => IsRecord.clusterSetup_within hfits.1 hfits.2 hv, nofun⟩
  · exact Nullable.within hv fun _ _ _ hv => hv.within 3
  · exact Nullable.within hv fun _ _ _ hv => hv.within 3
  · exact Nullable.within hv fun _ _ _ hv => hv.clusterState_within 2

theorem exists_of_mem_right {α β : Type} {R : α → β → Prop} {as : List α} {bs : List β}
    (h : List.Forall₂ R as bs) {b : β} (hb : b ∈ bs) : ∃ a ∈ as, R a b := by
  induction h with
  | nil => cases hb
  | cons head tail ih =>
    rcases List.mem_cons.1 hb with rfl | hb
    · exact ⟨_, List.mem_cons_self, head⟩
    · obtain ⟨a, ha, hab⟩ := ih hb
      exact ⟨a, List.mem_cons_of_mem _ ha, hab⟩

theorem clusters_within {cs : List Cluster} (hfits : ∀ c ∈ cs, c.CountsFit) {vs : List Value}
    (h : List.Forall₂ (fun c v => IsRecord (clusterFields c) v) cs vs) :
    (Value.list vs).Within 5 := by
  refine .list fun v hv => ?_
  obtain ⟨c, hc, hrecord⟩ := exists_of_mem_right h hv
  exact hrecord.cluster_within (hfits c hc)

/-! ## Writing a cluster -/

theorem exists_nullable {α : Type} {means : α → Value → Prop} (h : ∀ a, ∃ v, means a v)
    (o : Option α) : ∃ v, Nullable means o v := by
  cases o with
  | none => exact ⟨.null, rfl⟩
  | some a => exact h a

theorem exists_isText (s : String) : ∃ v, IsText s v := ⟨_, rfl⟩

theorem exists_isRecord {fields : List Field} (h : ∀ f ∈ fields, ∃ v, f.values v) :
    ∃ v, IsRecord fields v := by
  obtain ⟨ms, hms⟩ := exists_written h
  exact ⟨_, ms, rfl, hms⟩

theorem exists_nodeGroup (g : NodeGroup) : ∃ v, IsRecord (nodeGroupFields g) v := by
  refine exists_isRecord ?_
  simp only [nodeGroupFields, List.forall_mem_cons]
  exact ⟨exists_nullable (fun _ => ⟨_, .inl rfl⟩) _, ⟨_, rfl⟩, exists_nullable exists_isText _,
    exists_nullable exists_isText _, nofun⟩

theorem exists_clusterSetup (s : ClusterSetup) : ∃ v, IsRecord (clusterSetupFields s) v := by
  refine exists_isRecord ?_
  simp only [clusterSetupFields, List.forall_mem_cons]
  exact ⟨exists_nullable exists_isText _, exists_nodeGroup _, exists_nullable exists_nodeGroup _,
    nofun⟩

theorem exists_clusterState (s : ClusterState) : ∃ v, IsRecord (clusterStateFields s) v := by
  refine exists_isRecord ?_
  simp only [clusterStateFields, List.forall_mem_cons]
  exact ⟨exists_nullable exists_isText _, exists_nullable exists_isText _,
    exists_nullable exists_isText _, nofun⟩

theorem exists_cluster (c : Cluster) : ∃ v, IsRecord (clusterFields c) v := by
  refine exists_isRecord ?_
  simp only [clusterFields, List.forall_mem_cons]
  exact ⟨exists_isText _, exists_nullable exists_isText _, exists_nullable exists_isText _,
    ⟨_, rfl⟩, exists_nullable exists_clusterState _, exists_clusterSetup _, nofun⟩

end Response

/-- Every cluster has a rendering. -/
theorem Cluster.exists_rendering {c : Cluster} (hfits : c.CountsFit) :
    ∃ text, c.Rendering text := by
  obtain ⟨v, hv⟩ := Response.exists_cluster c
  obtain ⟨text, hwrites⟩ := (hv.cluster_within hfits).exists_writes
  exact ⟨text, v, hv, hwrites⟩

end ClusterPilot
