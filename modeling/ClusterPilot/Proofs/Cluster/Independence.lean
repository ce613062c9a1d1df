/-
No field of a response has a part in what another one comes to. What a field contributes to the
faults of a record, and what it holds once the record is read, depend on the value that is found in
it and on nothing else; so a record whose other fields are in order has exactly the faults of one,
and changing the value of a field, however far inside, leaves all other fields as they were.
-/
import ClusterPilot.Proofs.Cluster.Contribution

namespace ClusterPilot

open Json (Value)

namespace Response

/-! ## What a field is read as -/

/-- The value that is found in a field. -/
def value? (ms : Members) (f : FieldName) : Option Value := (find? ms f).map Prod.snd

section Fields

variable {α : Type} {read : Value → Checked α} {f : FieldName} {ms ms' : Members} {value a a' : α}

theorem required_eq_ok_iff :
    required read f ms = .ok a ↔ ∃ v, value? ms f = some v ∧ read v = .ok a := by
  unfold required value?
  cases find? ms f with
  | none => simp [Checked.fault, Checked.within]
  | some found => simp [Checked.within_eq_ok_iff]

theorem withDefault_eq_ok_iff : withDefault value read f ms = .ok a ↔
    value? ms f = none ∧ a = value ∨ ∃ v, value? ms f = some v ∧ read v = .ok a := by
  unfold withDefault value?
  cases find? ms f with
  | none => simp [eq_comm]
  | some found => simp [Checked.within_eq_ok_iff]

/-- A field that may hold a record holds none, or what the members that are found are read as. -/
theorem optionalRecord_eq_ok {read : Members → Checked α} {o : Option α}
    (h : withDefault none (nullable (record read)) f ms = .ok o) :
    ((value? ms f = none ∨ value? ms f = some .null) ∧ o = none) ∨
      ∃ is a, value? ms f = some (.object is) ∧ read is = .ok a ∧ o = some a := by
  rcases withDefault_eq_ok_iff.1 h with ⟨hvalue, ho⟩ | ⟨v, hvalue, hread⟩
  · exact .inl ⟨.inl hvalue, ho⟩
  · cases v with
    | null => exact .inl ⟨.inr hvalue, (Checked.ok.inj hread).symm⟩
    | object is =>
      obtain ⟨a, ha, ho⟩ := Checked.map_eq_ok_iff.1 hread
      exact .inr ⟨is, a, hvalue, ha, ho.symm⟩
    | bool | integer | number | text | list => cases hread

theorem required_congr (hvalue : value? ms' f = value? ms f) (h : required read f ms = .ok a)
    (h' : required read f ms' = .ok a') : a' = a := by
  rw [required_eq_ok_iff, hvalue, ← required_eq_ok_iff] at h'
  exact Checked.ok.inj (h'.symm.trans h)

theorem withDefault_congr (hvalue : value? ms' f = value? ms f)
    (h : withDefault value read f ms = .ok a) (h' : withDefault value read f ms' = .ok a') :
    a' = a := by
  rw [withDefault_eq_ok_iff, hvalue, ← withDefault_eq_ok_iff] at h'
  exact Checked.ok.inj (h'.symm.trans h)

end Fields

/-! ## What a record is read as -/

section Records

variable {ms : Members}

theorem nodeGroup_eq_ok {g : NodeGroup} (h : nodeGroup ms = .ok g) :
    withDefault none (nullable Count.ofJson) ⟨"numInstances", "num_instances"⟩ ms = .ok g.count ∧
    withDefault [] (listOf text) ⟨"instanceNames", "instance_names"⟩ ms = .ok g.instances ∧
    optionalText ⟨"machineTypeUri", "machine_type_uri"⟩ ms = .ok g.machineType ∧
    optionalText ⟨"imageUri", "image_uri"⟩ ms = .ok g.image := by
  simp only [nodeGroup, Checked.seq_eq_ok_iff, Checked.map_apply_eq_ok_iff] at h
  obtain ⟨_, _, ⟨_, _, ⟨_, _, ⟨_, hcount, rfl⟩, hinstances, rfl⟩, hmachineType, rfl⟩, himage,
    rfl⟩ := h
  exact ⟨hcount, hinstances, hmachineType, himage⟩

theorem clusterSetup_eq_ok {s : ClusterSetup} (h : clusterSetup ms = .ok s) :
    optionalText ⟨"configBucket", "config_bucket"⟩ ms = .ok s.bucket ∧
    required (record nodeGroup) ⟨"masterConfig", "master_config"⟩ ms = .ok s.master ∧
    withDefault none (nullable (record nodeGroup)) ⟨"workerConfig", "worker_config"⟩ ms =
      .ok s.workers := by
  simp only [clusterSetup, Checked.seq_eq_ok_iff, Checked.map_apply_eq_ok_iff] at h
  obtain ⟨_, _, ⟨_, _, ⟨_, hbucket, rfl⟩, hmaster, rfl⟩, hworkers, rfl⟩ := h
  exact ⟨hbucket, hmaster, hworkers⟩

theorem clusterState_eq_ok {s : ClusterState} (h : clusterState ms = .ok s) :
    optionalText ⟨"state", "state"⟩ ms = .ok s.name ∧
    optionalText ⟨"detail", "detail"⟩ ms = .ok s.detail ∧
    optionalText ⟨"stateStartTime", "state_start_time"⟩ ms = .ok s.since := by
  simp only [clusterState, Checked.seq_eq_ok_iff, Checked.map_apply_eq_ok_iff] at h
  obtain ⟨_, _, ⟨_, _, ⟨_, hname, rfl⟩, hdetail, rfl⟩, hsince, rfl⟩ := h
  exact ⟨hname, hdetail, hsince⟩

theorem cluster_eq_ok {c : Cluster} (h : cluster ms = .ok c) :
    required text ⟨"clusterName", "cluster_name"⟩ ms = .ok c.name ∧
    optionalText ⟨"projectId", "project_id"⟩ ms = .ok c.project ∧
    optionalText ⟨"clusterUuid", "cluster_uuid"⟩ ms = .ok c.uuid ∧
    withDefault .empty textMap ⟨"labels", "labels"⟩ ms = .ok c.labels ∧
    withDefault none (nullable (record clusterState)) ⟨"status", "status"⟩ ms = .ok c.state ∧
    required (record clusterSetup) ⟨"config", "config"⟩ ms = .ok c.setup := by
  simp only [cluster, Checked.seq_eq_ok_iff, Checked.map_apply_eq_ok_iff] at h
  obtain ⟨_, _, ⟨_, _, ⟨_, _, ⟨_, _, ⟨_, _, ⟨_, hname, rfl⟩, hproject, rfl⟩, huuid, rfl⟩, hlabels,
    rfl⟩, hstate, rfl⟩, hsetup, rfl⟩ := h
  exact ⟨hname, hproject, huuid, hlabels, hstate, hsetup⟩

end Records

/-- What a field holds depends on the value that is found in it and on nothing else. -/
theorem content_congr {r : RecordKind} {slot : Slot r.Result} (hslot : slot ∈ r.slots)
    {ms ms' : Members} {a a' : r.Result} (h : r.read ms = .ok a) (h' : r.read ms' = .ok a')
    (hvalue : value? ms' slot.name = value? ms slot.name) : slot.content a' = slot.content a := by
  cases r with
  | cluster =>
    obtain ⟨hname, hproject, huuid, hlabels, hstate, hsetup⟩ := cluster_eq_ok h
    obtain ⟨hname', hproject', huuid', hlabels', hstate', hsetup'⟩ := cluster_eq_ok h'
    simp only [RecordKind.slots, clusterSlots, List.mem_cons, List.not_mem_nil, or_false] at hslot
    rcases hslot with rfl | rfl | rfl | rfl | rfl | rfl
    · exact congrArg (fun s => Content.text (some s)) (required_congr hvalue hname hname')
    · exact congrArg Content.text (withDefault_congr hvalue hproject hproject')
    · exact congrArg Content.text (withDefault_congr hvalue huuid huuid')
    · exact congrArg Content.textMap (withDefault_congr hvalue hlabels hlabels')
    · exact congrArg (Content.record .state) (withDefault_congr hvalue hstate hstate')
    · exact congrArg (fun s => Content.record .setup (some s))
        (required_congr hvalue hsetup hsetup')
  | setup =>
    obtain ⟨hbucket, hmaster, hworkers⟩ := clusterSetup_eq_ok h
    obtain ⟨hbucket', hmaster', hworkers'⟩ := clusterSetup_eq_ok h'
    simp only [RecordKind.slots, setupSlots, List.mem_cons, List.not_mem_nil, or_false] at hslot
    rcases hslot with rfl | rfl | rfl
    · exact congrArg Content.text (withDefault_congr hvalue hbucket hbucket')
    · exact congrArg (fun g => Content.record .group (some g))
        (required_congr hvalue hmaster hmaster')
    · exact congrArg (Content.record .group) (withDefault_congr hvalue hworkers hworkers')
  | state =>
    obtain ⟨hname, hdetail, hsince⟩ := clusterState_eq_ok h
    obtain ⟨hname', hdetail', hsince'⟩ := clusterState_eq_ok h'
    simp only [RecordKind.slots, stateSlots, List.mem_cons, List.not_mem_nil, or_false] at hslot
    rcases hslot with rfl | rfl | rfl
    · exact congrArg Content.text (withDefault_congr hvalue hname hname')
    · exact congrArg Content.text (withDefault_congr hvalue hdetail hdetail')
    · exact congrArg Content.text (withDefault_congr hvalue hsince hsince')
  | group =>
    obtain ⟨hcount, hinstances, hmachineType, himage⟩ := nodeGroup_eq_ok h
    obtain ⟨hcount', hinstances', hmachineType', himage'⟩ := nodeGroup_eq_ok h'
    simp only [RecordKind.slots, groupSlots, List.mem_cons, List.not_mem_nil, or_false] at hslot
    rcases hslot with rfl | rfl | rfl | rfl
    · exact congrArg Content.count (withDefault_congr hvalue hcount hcount')
    · exact congrArg Content.texts (withDefault_congr hvalue hinstances hinstances')
    · exact congrArg Content.text (withDefault_congr hvalue hmachineType hmachineType')
    · exact congrArg Content.text (withDefault_congr hvalue himage himage')

/-! ## Fields of records in fields -/

/-- What stands in a field, in a field of the record that it holds, and so on: the names lead
there. -/
def Content.at? : Content → List String → Option Content
  | x, [] => some x
  | .record r (some a), name :: place =>
    (r.slots.find? fun slot => slot.name.inResponse = name).bind fun slot =>
      (slot.content a).at? place
  | _, _ :: _ => none

/-- Records that differ in the value of one field only, which the names lead to. -/
inductive ChangedAt : RecordKind → List String → Members → Members → Prop
  | here {r : RecordKind} {f : FieldName} {ms ms' : Members} (hf : f ∈ r.names)
      (others : ∀ g ∈ r.names, g ≠ f → value? ms' g = value? ms g) :
      ChangedAt r [f.inResponse] ms ms'
  | inside {r inner : RecordKind} {f : FieldName} {place : List String} {ms ms' is is' : Members}
      (hf : (f, some inner) ∈ r.fields)
      (others : ∀ g ∈ r.names, g ≠ f → value? ms' g = value? ms g)
      (found : value? ms f = some (.object is)) (found' : value? ms' f = some (.object is'))
      (h : ChangedAt inner place is is') : ChangedAt r (f.inResponse :: place) ms ms'

section Slots

variable {r : RecordKind} {slot : Slot r.Result}

theorem name_mem_names (hslot : slot ∈ r.slots) : slot.name ∈ r.names := by
  rw [← r.map_name_slots]
  exact List.mem_map_of_mem hslot

theorem RecordKind.nodup_names (r : RecordKind) : r.names.Nodup :=
  r.apart.imp fun h heq => h.1 (congrArg FieldName.inResponse heq)

theorem nodup_name_slots (r : RecordKind) : (r.slots.map Slot.name).Nodup := by
  rw [r.map_name_slots]
  exact r.nodup_names

end Slots

/-! ## Records that fields hold -/

section Held

variable {α : Type} {read : Members → Checked α} {f : FieldName} {ms is : Members}

theorem read_of_required {a : α} (h : required (record read) f ms = .ok a)
    (hvalue : value? ms f = some (.object is)) : read is = .ok a := by
  obtain ⟨v, hv, hread⟩ := required_eq_ok_iff.1 h
  cases hv.symm.trans hvalue
  exact hread

theorem read_of_withDefault {o : Option α}
    (h : withDefault none (nullable (record read)) f ms = .ok o)
    (hvalue : value? ms f = some (.object is)) : ∃ a, read is = .ok a ∧ o = some a := by
  rcases optionalRecord_eq_ok h with ⟨hnull | hnull, -⟩ | ⟨is', a, hobject, ha, ho⟩
  · cases hnull.symm.trans hvalue
  · cases hnull.symm.trans hvalue
  · cases hobject.symm.trans hvalue
    exact ⟨a, ha, ho⟩

/-- A field that is found to hold an object holds what its members are read as. -/
theorem exists_held {r inner : RecordKind} (hf : (f, some inner) ∈ r.fields) {a : r.Result}
    (h : r.read ms = .ok a) (hvalue : value? ms f = some (.object is)) :
    ∃ slot ∈ r.slots, slot.name = f ∧
      ∃ b, inner.read is = .ok b ∧ slot.content a = .record inner (some b) := by
  cases r with
  | cluster =>
    obtain ⟨-, -, -, -, hstate, hsetup⟩ := cluster_eq_ok h
    simp only [RecordKind.fields, List.mem_cons, Prod.mk.injEq, Option.some.injEq, reduceCtorEq,
      and_false, List.not_mem_nil, or_false, false_or] at hf
    rcases hf with ⟨rfl, rfl⟩ | ⟨rfl, rfl⟩
    · obtain ⟨b, hb, hsome⟩ := read_of_withDefault hstate hvalue
      exact ⟨_, .tail _ (.tail _ (.tail _ (.tail _ (.head _)))), rfl, b, hb,
        congrArg (Content.record .state) hsome⟩
    · exact ⟨_, .tail _ (.tail _ (.tail _ (.tail _ (.tail _ (.head _))))), rfl, _,
        read_of_required hsetup hvalue, rfl⟩
  | setup =>
    obtain ⟨-, hmaster, hworkers⟩ := clusterSetup_eq_ok h
    simp only [RecordKind.fields, List.mem_cons, Prod.mk.injEq, Option.some.injEq, reduceCtorEq,
      and_false, List.not_mem_nil, or_false, false_or] at hf
    rcases hf with ⟨rfl, rfl⟩ | ⟨rfl, rfl⟩
    · exact ⟨_, .tail _ (.head _), rfl, _, read_of_required hmaster hvalue, rfl⟩
    · obtain ⟨b, hb, hsome⟩ := read_of_withDefault hworkers hvalue
      exact ⟨_, .tail _ (.tail _ (.head _)), rfl, b, hb, congrArg (Content.record .group) hsome⟩
  | state => simp [RecordKind.fields] at hf
  | group => simp [RecordKind.fields] at hf

end Held

/-! ## Changing one field -/

theorem at?_cons_congr {r : RecordKind} {a a' : r.Result} {name : String} {place : List String}
    (h : ∀ slot ∈ r.slots, slot.name.inResponse = name →
      (slot.content a').at? place = (slot.content a).at? place) :
    Content.at? (.record r (some a')) (name :: place) =
      Content.at? (.record r (some a)) (name :: place) := by
  rw [Content.at?, Content.at?]
  cases hfind : r.slots.find? fun slot => slot.name.inResponse = name with
  | none => rfl
  | some slot =>
    have hname := List.find?_some hfind
    exact h slot (List.mem_of_find?_eq_some hfind) (of_decide_eq_true hname)

/-- Changing the value of one field leaves what stands elsewhere as it was. -/
theorem ChangedAt.at?_eq {r : RecordKind} {changed : List String} {ms ms' : Members}
    (h : ChangedAt r changed ms ms') : ∀ {a a' : r.Result}, r.read ms = .ok a →
      r.read ms' = .ok a' → ∀ {place : List String}, ¬ changed <+: place → ¬ place <+: changed →
        Content.at? (.record r (some a')) place = Content.at? (.record r (some a)) place := by
  induction h with
  | @here r f ms ms' hf others =>
    intro a a' hread hread' place hbelow habove
    cases place with
    | nil => exact absurd List.nil_prefix habove
    | cons name place =>
      refine at?_cons_congr fun slot hslot hname => ?_
      have hne : slot.name ≠ f := by
        rintro rfl
        exact hbelow (hname ▸ List.prefix_append [slot.name.inResponse] place)
      rw [content_congr hslot hread hread' (others _ (name_mem_names hslot) hne)]
  | @inside r inner f changed ms ms' is is' hf others found found' _ ih =>
    intro a a' hread hread' place hbelow habove
    cases place with
    | nil => exact absurd List.nil_prefix habove
    | cons name place =>
      refine at?_cons_congr fun slot hslot hname => ?_
      by_cases hslotf : slot.name = f
      · -- the field holds a record before and after, and the change is inside
        obtain ⟨held, hheld, hheldf, b, hb, hcontent⟩ := exists_held hf hread found
        obtain ⟨held', hheld', hheldf', b', hb', hcontent'⟩ := exists_held hf hread' found'
        have heq : held = slot := List.inj_on_of_nodup_map (nodup_name_slots r) hheld hslot
          (hheldf.trans hslotf.symm)
        have heq' : held' = slot := List.inj_on_of_nodup_map (nodup_name_slots r) hheld' hslot
          (hheldf'.trans hslotf.symm)
        rw [← heq, hcontent, heq, ← heq', hcontent']
        rw [← hname, hslotf] at hbelow habove
        refine ih hb hb' (fun hprefix => hbelow ?_) fun hprefix => habove ?_
        · exact List.cons_prefix_cons.2 ⟨rfl, hprefix⟩
        · exact List.cons_prefix_cons.2 ⟨rfl, hprefix⟩
      · rw [content_congr hslot hread hread' (others _ (name_mem_names hslot) hslotf)]

end Response

namespace Operation

open Response

/-! ## Reading a response -/

/-- What reading a text that holds an object tells, field by field. -/
structure ToldByFields (text : String) (ms : Members) : Prop where
  /-- The faults of all fields are told, each field in its turn. -/
  all : details (readCluster text) = contributions clusterSlots ms
  ok_iff : (∃ c, readCluster text = .ok c) ↔ ∀ slot ∈ clusterSlots, slot.contribution ms = []
  /-- The message counts the faults. -/
  counted : ∀ f, readCluster text = .error f → f = .unreadable
    ("Unexpected cluster response: " ++
      Failure.countLine (contributions clusterSlots ms).length "Cluster")
    text (some (contributions clusterSlots ms))
  /-- A field contributes what it does in any object whose other fields are in order. -/
  alone : ∀ text' ms', Value.read? text' = some (.object ms') →
    ∀ slot ∈ clusterSlots, find? ms' slot.name = find? ms slot.name →
      (∀ other ∈ clusterSlots, other.name ≠ slot.name → other.contribution ms' = []) →
      details (readCluster text') = slot.contribution ms
  /-- And so it does in the records that fields hold. -/
  inside : ∀ (r : RecordKind) (is is' : Members), ∀ slot ∈ r.slots,
    find? is' slot.name = find? is slot.name →
      (∀ other ∈ r.slots, other.name ≠ slot.name → other.contribution is' = []) →
      (r.read is').faults = slot.contribution is
  /-- Where two texts are read that differ in one field, all other fields are the same. -/
  changed : ∀ text' ms' place c c', Value.read? text' = some (.object ms') →
    ChangedAt .cluster place ms ms' → readCluster text = .ok c → readCluster text' = .ok c' →
      ∀ other, ¬ place <+: other → ¬ other <+: place →
        Content.at? (.record .cluster (some c')) other =
          Content.at? (.record .cluster (some c)) other

section ByFields

variable {text : String} {ms : Members}

theorem details_eq_contributions (h : Value.read? text = some (.object ms)) :
    details (readCluster text) = contributions clusterSlots ms := by
  rw [details_readCluster, one_of_read? h]
  exact faults_cluster ms

/-- A response is checked completely and field by field. -/
theorem readCluster_by_fields (h : Value.read? text = some (.object ms)) :
    ToldByFields text ms := by
  have hone : one text = cluster ms := one_of_read? h
  have halone : ∀ (r : RecordKind) (is is' : Members), ∀ slot ∈ r.slots,
      find? is' slot.name = find? is slot.name →
      (∀ other ∈ r.slots, other.name ≠ slot.name → other.contribution is' = []) →
      (r.read is').faults = slot.contribution is := by
    intro r is is' slot hslot hfind hothers
    rw [r.faults_read, contributions_eq_of_alone (nodup_name_slots r) hslot hothers,
      Slot.contribution_congr hfind]
  refine ⟨details_eq_contributions h, ?_, ?_, ?_, halone, ?_⟩
  · simp only [readCluster_eq_ok_iff, hone]
    exact RecordKind.cluster.read_ok_iff ms
  · intro f hf
    have hfaults : (one text).faults = contributions clusterSlots ms := by
      rw [hone, faults_cluster]
    have hne := readCluster_error_iff.1 ⟨f, hf⟩
    rw [readCluster, ofChecked_of_faults hne, hfaults] at hf
    exact (Except.error.inj hf).symm
  · intro text' ms' h' slot hslot hfind hothers
    rw [details_readCluster, one_of_read? h']
    exact halone .cluster ms ms' slot hslot hfind hothers
  · intro text' ms' place c c' h' hchanged hc hc' other hbelow habove
    rw [readCluster_eq_ok_iff, one_of_read? h] at hc
    rw [readCluster_eq_ok_iff, one_of_read? h'] at hc'
    exact hchanged.at?_eq hc hc' hbelow habove

/-- A response without a name, with faults in a label that is there twice and in an item of a list
further inside. -/
def damaged : String :=
  "\x7b\"labels\":\x7b\"k\":1,\"k\":2\x7d,\"config\":" ++
    "\x7b\"masterConfig\":\x7b\"instance_names\":[\"a\",2]\x7d\x7d\x7d"

/-- The members of that response. -/
def damagedMembers : Members :=
  [("labels", .object [("k", .integer 1), ("k", .integer 2)]),
    ("config", .object [("masterConfig", .object [
      ("instance_names", .list [.text "a", .integer 2])])])]

theorem readCluster_by_fields_damaged :
    Value.read? damaged = some (.object damagedMembers) ∧
      readCluster damaged = .error (.unreadable
        "Unexpected cluster response: 4 validation errors for Cluster" damaged (some [
          ⟨.missing, [.key "clusterName"]⟩,
          ⟨.notText, [.key "labels", .key "k"]⟩, ⟨.notText, [.key "labels", .key "k"]⟩,
          ⟨.notText, [.key "config", .key "masterConfig", .key "instance_names", .index 1]⟩])) := by
  have h : Value.read? damaged = some (.object damagedMembers) := by rfl
  have told := readCluster_by_fields h
  have hfaults : contributions clusterSlots damagedMembers = [
      ⟨.missing, [.key "clusterName"]⟩,
      ⟨.notText, [.key "labels", .key "k"]⟩, ⟨.notText, [.key "labels", .key "k"]⟩,
      ⟨.notText, [.key "config", .key "masterConfig", .key "instance_names", .index 1]⟩] := by
    decide +kernel
  have hne : (one damaged).faults ≠ [] := by
    rw [← details_readCluster, told.all, hfaults]
    exact List.cons_ne_nil _ _
  obtain ⟨f, hf⟩ := readCluster_error_iff.2 hne
  refine ⟨h, ?_⟩
  rw [hf, told.counted f hf, hfaults]
  rfl

/-- The faults of a record go by the spelling under which the record was found. -/
theorem nested_under_words :
    let text := "\x7b\"clusterName\":\"c\"," ++
      "\"config\":\x7b\"master_config\":\x7b\"numInstances\":[]\x7d\x7d\x7d"
    let group := Value.object [("numInstances", .list [])]
    Value.read? text = some (.object
        [("clusterName", .text "c"), ("config", .object [("master_config", group)])]) ∧
      details (readCluster text) =
        [⟨.notInteger, [.key "config", .key "master_config", .key "numInstances"]⟩] ∧
      details (readCluster text) ≠
        [⟨.notInteger, [.key "config", .key "masterConfig", .key "numInstances"]⟩] := by
  refine ⟨by rfl, ?_⟩
  decide +kernel

end ByFields

end Operation

end ClusterPilot
