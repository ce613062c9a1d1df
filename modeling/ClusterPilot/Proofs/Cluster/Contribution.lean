/-
What each field of a response contributes to its faults. A record declares its fields in order, with
the faults of the values that may stand there and whether they may be left out. The faults of a
record are what its fields contribute, one after the other, and so on in the records that it holds;
a record is read exactly when no field contributes any, and then each of its fields is what the
value found there is read as.
-/
import ClusterPilot.Proofs.Cluster.Variation

namespace ClusterPilot

open Json (Value)

namespace Response

/-! ## The faults of a value -/

/-- The faults of a value that should be a text. -/
def textFaults : Value → List Fault
  | .text _ => []
  | _ => [⟨.notText, []⟩]

/-- The faults of a value that should be an integer. -/
def countFaults (v : Value) : List Fault := (Count.ofJson v).faults

/-- The faults of a value that may be null. -/
def orNull (faults : Value → List Fault) : Value → List Fault
  | .null => []
  | v => faults v

/-- The faults of a value that should be a list: those of its items, each under its index. -/
def listFaults (faults : Value → List Fault) : Value → List Fault
  | .list vs => (vs.mapIdx fun i v => (faults v).map (Fault.within (.index i))).flatten
  | _ => [⟨.notList, []⟩]

/-- The faults of a value that should be a map: those of all its members in the order of the text,
also of members whose key comes again. -/
def mapFaults (faults : Value → List Fault) : Value → List Fault
  | .object ms => ms.flatMap fun m => (faults m.2).map (Fault.within (.key m.1))
  | _ => [⟨.notMap, []⟩]

/-! ## What records declare -/

/-- What a record says in one of its fields. -/
inductive Content where
  | text (s : Option String)
  | count (i : Option Int)
  | texts (ss : List String)
  | textMap (m : OrderedMap String)
  | record (r : RecordKind) (a : Option r.Result)

/-- A field of a record as the record declares it. -/
structure Slot (ρ : Type) where
  name : FieldName
  /-- The faults of a value that stands there. -/
  faults : Value → List Fault
  /-- Whether the field may be left out. -/
  omissible : Bool
  /-- What the field holds once the record is read. -/
  content : ρ → Content

/-- What a field contributes to the faults of a record: those of the value that is found, under the
spelling that it is found under. A field that is missing goes by the spelling of responses. -/
def Slot.contribution {ρ : Type} (slot : Slot ρ) (ms : Members) : List Fault :=
  match find? ms slot.name with
  | some (key, v) => (slot.faults v).map (Fault.within (.key key))
  | none => if slot.omissible then [] else [⟨.missing, [.key slot.name.inResponse]⟩]

/-- What all fields of a record contribute, in their order. -/
def contributions {ρ : Type} (slots : List (Slot ρ)) (ms : Members) : List Fault :=
  slots.flatMap fun slot => slot.contribution ms

/-- The faults of a value that should be a record. -/
def recordFaults {ρ : Type} (slots : List (Slot ρ)) : Value → List Fault
  | .object ms => contributions slots ms
  | _ => [⟨.notRecord, []⟩]

/-- The fields of a group of machines. -/
def groupSlots : List (Slot NodeGroup) := [
  ⟨⟨"numInstances", "num_instances"⟩, orNull countFaults, true, fun g => .count g.count⟩,
  ⟨⟨"instanceNames", "instance_names"⟩, listFaults textFaults, true, fun g => .texts g.instances⟩,
  ⟨⟨"machineTypeUri", "machine_type_uri"⟩, orNull textFaults, true, fun g => .text g.machineType⟩,
  ⟨⟨"imageUri", "image_uri"⟩, orNull textFaults, true, fun g => .text g.image⟩]

/-- The fields of the setup of a cluster. -/
def setupSlots : List (Slot ClusterSetup) := [
  ⟨⟨"configBucket", "config_bucket"⟩, orNull textFaults, true, fun s => .text s.bucket⟩,
  ⟨⟨"masterConfig", "master_config"⟩, recordFaults groupSlots, false,
    fun s => .record .group (some s.master)⟩,
  ⟨⟨"workerConfig", "worker_config"⟩, orNull (recordFaults groupSlots), true,
    fun s => .record .group s.workers⟩]

/-- The fields of the state of a cluster. -/
def stateSlots : List (Slot ClusterState) := [
  ⟨⟨"state", "state"⟩, orNull textFaults, true, fun s => .text s.name⟩,
  ⟨⟨"detail", "detail"⟩, orNull textFaults, true, fun s => .text s.detail⟩,
  ⟨⟨"stateStartTime", "state_start_time"⟩, orNull textFaults, true, fun s => .text s.since⟩]

/-- The fields of a cluster. -/
def clusterSlots : List (Slot Cluster) := [
  ⟨⟨"clusterName", "cluster_name"⟩, textFaults, false, fun c => .text (some c.name)⟩,
  ⟨⟨"projectId", "project_id"⟩, orNull textFaults, true, fun c => .text c.project⟩,
  ⟨⟨"clusterUuid", "cluster_uuid"⟩, orNull textFaults, true, fun c => .text c.uuid⟩,
  ⟨⟨"labels", "labels"⟩, mapFaults textFaults, true, fun c => .textMap c.labels⟩,
  ⟨⟨"status", "status"⟩, orNull (recordFaults stateSlots), true, fun c => .record .state c.state⟩,
  ⟨⟨"config", "config"⟩, recordFaults setupSlots, false, fun c => .record .setup (some c.setup)⟩]

/-- The fields of a record. -/
def RecordKind.slots : (r : RecordKind) → List (Slot r.Result)
  | .cluster => clusterSlots
  | .setup => setupSlots
  | .state => stateSlots
  | .group => groupSlots

theorem RecordKind.map_name_slots (r : RecordKind) : r.slots.map Slot.name = r.names := by
  cases r <;> rfl

/-! ## The faults of a value are those that reading it reports -/

section Values

variable {α : Type} {read : Value → Checked α} {faults : Value → List Fault}

theorem faults_text (v : Value) : (text v).faults = textFaults v := by
  cases v <;> rfl

theorem faults_nullable (h : ∀ v, (read v).faults = faults v) (v : Value) :
    (nullable read v).faults = orNull faults v := by
  cases v with
  | null => rfl
  | bool | integer | number | text | list | object => exact (Checked.faults_map _ _).trans (h _)

theorem faults_listOf_eq (h : ∀ v, (read v).faults = faults v) (v : Value) :
    (listOf read v).faults = listFaults faults v := by
  cases v with
  | list vs =>
    rw [faults_listOf, listFaults]
    simp only [h]
  | null | bool | integer | number | text | object => rfl

theorem faults_textMap (v : Value) : (textMap v).faults = mapFaults textFaults v := by
  cases v with
  | object ms =>
    rw [textMap, Checked.faults_map, Checked.faults_all, mapFaults, List.flatMap_map]
    simp only [Checked.faults_map, Checked.faults_within, faults_text]
  | null | bool | integer | number | text | list => rfl

theorem faults_record {ρ : Type} {slots : List (Slot ρ)} {read : Members → Checked ρ}
    (h : ∀ ms, (read ms).faults = contributions slots ms) (v : Value) :
    (record read v).faults = recordFaults slots v := by
  cases v with
  | object ms => exact h ms
  | null | bool | integer | number | text | list => rfl

end Values

/-! ## The faults of a record are what its fields contribute -/

section Fields

variable {ρ α : Type} {slots : List (Slot ρ)} {slot : Slot ρ} {ms : Members} {f : FieldName}
  {read : Value → Checked α} {faults : Value → List Fault} {content : ρ → Content}

theorem faults_withDefault (value : α) (h : ∀ v, (read v).faults = faults v) :
    (withDefault value read f ms).faults = Slot.contribution ⟨f, faults, true, content⟩ ms := by
  unfold withDefault Slot.contribution
  cases find? ms f with
  | none => rfl
  | some found =>
    show ((read found.2).within (.key found.1)).faults = _
    rw [Checked.faults_within, h]

theorem faults_required (h : ∀ v, (read v).faults = faults v) :
    (required read f ms).faults = Slot.contribution ⟨f, faults, false, content⟩ ms := by
  unfold required Slot.contribution
  cases find? ms f with
  | none => rfl
  | some found =>
    show ((read found.2).within (.key found.1)).faults = _
    rw [Checked.faults_within, h]

/-- One field before others. -/
theorem append_contributions {first rest : List Fault} (hfirst : first = slot.contribution ms)
    (hrest : rest = contributions slots ms) : first ++ rest = contributions (slot :: slots) ms := by
  rw [hfirst, hrest, contributions, contributions, List.flatMap_cons]

/-- The last field. -/
theorem eq_contributions {last : List Fault} (h : last = slot.contribution ms) :
    last = contributions [slot] ms := by
  rw [h, contributions, List.flatMap_singleton]

end Fields

theorem faults_nodeGroup (ms : Members) : (nodeGroup ms).faults = contributions groupSlots ms := by
  simp only [nodeGroup, Checked.faults_seq, Checked.faults_map_apply, List.append_assoc]
  refine append_contributions ?_ (append_contributions ?_ (append_contributions ?_
    (eq_contributions ?_)))
  · exact faults_withDefault none (faults_nullable fun _ => rfl)
  · exact faults_withDefault [] (faults_listOf_eq faults_text)
  · exact faults_withDefault none (faults_nullable faults_text)
  · exact faults_withDefault none (faults_nullable faults_text)

theorem faults_clusterSetup (ms : Members) :
    (clusterSetup ms).faults = contributions setupSlots ms := by
  simp only [clusterSetup, Checked.faults_seq, Checked.faults_map_apply, List.append_assoc]
  refine append_contributions ?_ (append_contributions ?_ (eq_contributions ?_))
  · exact faults_withDefault none (faults_nullable faults_text)
  · exact faults_required (faults_record faults_nodeGroup)
  · exact faults_withDefault none (faults_nullable (faults_record faults_nodeGroup))

theorem faults_clusterState (ms : Members) :
    (clusterState ms).faults = contributions stateSlots ms := by
  simp only [clusterState, Checked.faults_seq, Checked.faults_map_apply, List.append_assoc]
  refine append_contributions ?_ (append_contributions ?_ (eq_contributions ?_))
  all_goals exact faults_withDefault none (faults_nullable faults_text)

theorem faults_cluster (ms : Members) : (cluster ms).faults = contributions clusterSlots ms := by
  simp only [cluster, Checked.faults_seq, Checked.faults_map_apply, List.append_assoc]
  refine append_contributions ?_ (append_contributions ?_ (append_contributions ?_
    (append_contributions ?_ (append_contributions ?_ (eq_contributions ?_)))))
  · exact faults_required faults_text
  · exact faults_withDefault none (faults_nullable faults_text)
  · exact faults_withDefault none (faults_nullable faults_text)
  · exact faults_withDefault OrderedMap.empty faults_textMap
  · exact faults_withDefault none (faults_nullable (faults_record faults_clusterState))
  · exact faults_required (faults_record faults_clusterSetup)

/-- The faults of a record are what its fields contribute, one after the other. -/
theorem RecordKind.faults_read (r : RecordKind) (ms : Members) :
    (r.read ms).faults = contributions r.slots ms := by
  cases r with
  | cluster => exact faults_cluster ms
  | setup => exact faults_clusterSetup ms
  | state => exact faults_clusterState ms
  | group => exact faults_nodeGroup ms

/-- A record is read exactly when no field contributes a fault. -/
theorem RecordKind.read_ok_iff (r : RecordKind) (ms : Members) :
    (∃ a, r.read ms = .ok a) ↔ ∀ slot ∈ r.slots, slot.contribution ms = [] := by
  rw [← Checked.faults_eq_nil_iff, r.faults_read, contributions, List.flatMap_eq_nil_iff]

/-- A field whose value is found alike contributes alike. -/
theorem Slot.contribution_congr {ρ : Type} {slot : Slot ρ} {ms ms' : Members}
    (h : find? ms' slot.name = find? ms slot.name) :
    slot.contribution ms' = slot.contribution ms := by
  rw [contribution, contribution, h]

/-- Where no other field contributes a fault, the faults of a record are those of one field. -/
theorem contributions_eq_of_alone {ρ : Type} {slots : List (Slot ρ)} {slot : Slot ρ} {ms : Members}
    (hnodup : (slots.map Slot.name).Nodup) (hslot : slot ∈ slots)
    (h : ∀ other ∈ slots, other.name ≠ slot.name → other.contribution ms = []) :
    contributions slots ms = slot.contribution ms := by
  induction slots with
  | nil => cases hslot
  | cons first slots ih =>
    rw [List.map_cons, List.nodup_cons] at hnodup
    rw [contributions, List.flatMap_cons]
    rcases List.mem_cons.1 hslot with rfl | hslot
    · -- the names after it are others
      have hrest : ∀ other ∈ slots, other.contribution ms = [] := by
        intro other hother
        refine h other (List.mem_cons_of_mem _ hother) fun hname => hnodup.1 ?_
        exact hname ▸ List.mem_map_of_mem hother
      rw [List.flatMap_eq_nil_iff.2 hrest, List.append_nil]
    · have hfirst : first.contribution ms = [] := by
        refine h first List.mem_cons_self fun hname => hnodup.1 ?_
        exact hname ▸ List.mem_map_of_mem hslot
      rw [hfirst, List.nil_append]
      exact ih hnodup.2 hslot fun other hother => h other (List.mem_cons_of_mem _ hother)

end Response

end ClusterPilot
