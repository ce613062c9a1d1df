/-
What a response may vary without effect. The records of a response are read field by field, so two
objects whose fields are found alike are read alike, and so are two objects that hold such objects.
An idle edit of any record that is read changes neither the cluster nor the faults; respelling a key
changes no more than that key in the paths that lead through it.
-/
import ClusterPilot.Proofs.Cluster.Edit
import ClusterPilot.Proofs.Operation.Responses

namespace ClusterPilot

open Json (Value)

namespace Response

/-! ## The records of a response -/

/-- A kind of record in a response. -/
inductive RecordKind where
  | cluster
  | setup
  | state
  | group

namespace RecordKind

/-- What a record is read as. -/
abbrev Result : RecordKind → Type
  | cluster => Cluster
  | setup => ClusterSetup
  | state => ClusterState
  | group => NodeGroup

/-- How the members of a record are read. -/
abbrev read : (r : RecordKind) → Members → Checked r.Result
  | cluster => Response.cluster
  | setup => clusterSetup
  | state => clusterState
  | group => nodeGroup

/-- The fields of a record, each with the kind of record that it holds, if it holds one. -/
def fields : RecordKind → List (FieldName × Option RecordKind)
  | cluster => [(⟨"clusterName", "cluster_name"⟩, none), (⟨"projectId", "project_id"⟩, none),
      (⟨"clusterUuid", "cluster_uuid"⟩, none), (⟨"labels", "labels"⟩, none),
      (⟨"status", "status"⟩, some state), (⟨"config", "config"⟩, some setup)]
  | setup => [(⟨"configBucket", "config_bucket"⟩, none),
      (⟨"masterConfig", "master_config"⟩, some group),
      (⟨"workerConfig", "worker_config"⟩, some group)]
  | state => [(⟨"state", "state"⟩, none), (⟨"detail", "detail"⟩, none),
      (⟨"stateStartTime", "state_start_time"⟩, none)]
  | group => [(⟨"numInstances", "num_instances"⟩, none),
      (⟨"instanceNames", "instance_names"⟩, none), (⟨"machineTypeUri", "machine_type_uri"⟩, none),
      (⟨"imageUri", "image_uri"⟩, none)]

/-- The names of the fields of a record. -/
def names (r : RecordKind) : List FieldName := r.fields.map Prod.fst

theorem apart (r : RecordKind) : r.names.Pairwise FieldName.Apart := by
  cases r <;> simp [names, fields, FieldName.Apart]

theorem eq_or_apart {r : RecordKind} {a b : FieldName × Option RecordKind} (ha : a ∈ r.fields)
    (hb : b ∈ r.fields) : a = b ∨ a.1.Apart b.1 := by
  have hsymm : Std.Symm fun a b : FieldName × Option RecordKind => a.1.Apart b.1 :=
    ⟨fun _ _ h => symm h⟩
  by_cases hab : a = b
  · exact .inl hab
  · exact .inr ((List.pairwise_map.1 r.apart).forall ha hb hab)

end RecordKind

/-! ## Objects that differ in one record -/

/-- Objects that differ in one record only: in the members of the object itself, or further in, in
a record that one of its fields is found to hold. The place of the record is given by the keys that
lead to it. -/
inductive DifferAt (R : RecordKind → Members → Members → Prop) :
    RecordKind → List String → Members → Members → Prop
  | here {r : RecordKind} {ms ms' : Members} (h : R r ms ms') : DifferAt R r [] ms ms'
  | inside {r inner : RecordKind} {f : FieldName} {key : String} {place : List String}
      {ms ms' : Members} (front back : Members) (hf : (f, some inner) ∈ r.fields)
      (hfound : find? (front ++ (key, .object ms) :: back) f = some (key, .object ms))
      (hlast : ∀ v, (key, v) ∉ back) (h : DifferAt R inner place ms ms') :
      DifferAt R r (key :: place) (front ++ (key, .object ms) :: back)
        (front ++ (key, .object ms') :: back)

/-! ## Fields that are found alike -/

section Alike

variable {ρ : Fault → Fault} {ms ms' : Members}

/-- A field that is read alike from two objects, up to new names for the faults. -/
inductive Alike (ρ : Fault → Fault) (ms ms' : Members) :
    FieldName × Option RecordKind → Prop
  /-- Neither object has the field. -/
  | missing {f : FieldName} {held : Option RecordKind} (h : find? ms f = none)
      (h' : find? ms' f = none)
      (hρ : ρ ⟨.missing, [.key f.inResponse]⟩ = ⟨.missing, [.key f.inResponse]⟩) :
      Alike ρ ms ms' (f, held)
  /-- Both have it with the same value. -/
  | same {f : FieldName} {held : Option RecordKind} {key key' : String} {v : Value}
      (h : find? ms f = some (key, v)) (h' : find? ms' f = some (key', v))
      (hρ : ∀ fault : Fault, ρ (fault.within (.key key)) = fault.within (.key key')) :
      Alike ρ ms ms' (f, held)
  /-- Both hold records that are read alike. -/
  | inside {f : FieldName} {inner : RecordKind} {key : String} {is is' : Members}
      {ρ' : Fault → Fault} (h : find? ms f = some (key, .object is))
      (h' : find? ms' f = some (key, .object is'))
      (hread : inner.read is' = (inner.read is).rename ρ')
      (hρ : ∀ fault : Fault, ρ (fault.within (.key key)) = (ρ' fault).within (.key key)) :
      Alike ρ ms ms' (f, some inner)

/-- A way to read a field that takes a record for what the record is read as. -/
def Takes {α : Type} (held : Option RecordKind) (read : Value → Checked α) : Prop :=
  ∀ inner ∈ held, ∀ is is' ρ, inner.read is' = (inner.read is).rename ρ →
    read (.object is') = (read (.object is)).rename ρ

theorem takes_none {α : Type} {read : Value → Checked α} : Takes none read := nofun

theorem takes_record (inner : RecordKind) : Takes (some inner) (record inner.read) := by
  rintro _ ⟨⟩ is is' ρ h
  exact h

theorem takes_nullable (inner : RecordKind) : Takes (some inner) (nullable (record inner.read)) := by
  rintro _ ⟨⟩ is is' ρ h
  show (inner.read is').map some = ((inner.read is).map some).rename ρ
  rw [h]
  exact (Checked.rename_map ρ some _).symm

variable {f : FieldName} {held : Option RecordKind} {α : Type} {read : Value → Checked α}

/-- A field that is found as before, when the faults under its spellings keep their names. -/
theorem Alike.of_find?_eq (hsame : find? ms' f = find? ms f)
    (hρ : ∀ key, f.Spells key → ∀ fault : Fault,
      ρ (fault.within (.key key)) = fault.within (.key key)) : Alike ρ ms ms' (f, held) := by
  cases hfind : find? ms f with
  | none => exact .missing hfind (hsame.trans hfind) (hρ _ (.inl rfl) ⟨.missing, []⟩)
  | some found => exact .same hfind (hsame.trans hfind) (hρ _ (spells_of_find? hfind))

theorem Alike.found (h : Alike ρ ms ms' (f, held)) (hread : Takes held read) :
    (find? ms f = none ∧ find? ms' f = none ∧
      ρ ⟨.missing, [.key f.inResponse]⟩ = ⟨.missing, [.key f.inResponse]⟩) ∨
    ∃ key v key' v', find? ms f = some (key, v) ∧ find? ms' f = some (key', v') ∧
      (read v').within (.key key') = ((read v).within (.key key)).rename ρ := by
  cases h with
  | missing h h' hρ => exact .inl ⟨h, h', hρ⟩
  | @same _ _ key key' v h h' hρ =>
    have hid : ∀ fault : Fault, ρ (fault.within (.key key)) = (id fault).within (.key key') := hρ
    exact .inr ⟨_, _, _, _, h, h', by rw [Checked.rename_within hid, Checked.rename_id]⟩
  | inside h h' hinner hρ =>
    refine .inr ⟨_, _, _, _, h, h', ?_⟩
    rw [Checked.rename_within hρ, hread _ rfl _ _ _ hinner]

theorem Alike.withDefault_eq (h : Alike ρ ms ms' (f, held)) (value : α) (hread : Takes held read) :
    withDefault value read f ms' = (withDefault value read f ms).rename ρ := by
  unfold withDefault
  rcases h.found hread with ⟨hfind, hfind', -⟩ | ⟨key, v, key', v', hfind, hfind', hvalue⟩
  · rw [hfind, hfind']
    rfl
  · rw [hfind, hfind']
    exact hvalue

theorem Alike.required_eq (h : Alike ρ ms ms' (f, held)) (hread : Takes held read) :
    required read f ms' = (required read f ms).rename ρ := by
  unfold required
  rcases h.found hread with ⟨hfind, hfind', hρ⟩ | ⟨key, v, key', v', hfind, hfind', hvalue⟩
  · rw [hfind, hfind']
    exact congrArg (Checked.faulty · []) hρ.symm
  · rw [hfind, hfind']
    exact hvalue

theorem Alike.optionalText_eq (h : Alike ρ ms ms' (f, none)) :
    optionalText f ms' = (optionalText f ms).rename ρ :=
  h.withDefault_eq none takes_none

/-! ## Records that are read alike -/

theorem nodeGroup_alike (h : ∀ f ∈ RecordKind.group.fields, Alike ρ ms ms' f) :
    nodeGroup ms' = (nodeGroup ms).rename ρ := by
  have hinstances := h _ (.tail _ (.head _))
  have hmachineType := h _ (.tail _ (.tail _ (.head _)))
  have himage := h _ (.tail _ (.tail _ (.tail _ (.head _))))
  rw [nodeGroup, (h _ (.head _)).withDefault_eq none takes_none,
    hinstances.withDefault_eq [] takes_none, hmachineType.optionalText_eq, himage.optionalText_eq]
  simp only [nodeGroup, Checked.rename_seq, Checked.rename_map]

theorem clusterSetup_alike (h : ∀ f ∈ RecordKind.setup.fields, Alike ρ ms ms' f) :
    clusterSetup ms' = (clusterSetup ms).rename ρ := by
  have hmaster := (h _ (.tail _ (.head _))).required_eq (takes_record .group)
  have hworkers := (h _ (.tail _ (.tail _ (.head _)))).withDefault_eq none (takes_nullable .group)
  rw [clusterSetup, (h _ (.head _)).optionalText_eq, hmaster, hworkers]
  simp only [clusterSetup, Checked.rename_seq, Checked.rename_map]

theorem clusterState_alike (h : ∀ f ∈ RecordKind.state.fields, Alike ρ ms ms' f) :
    clusterState ms' = (clusterState ms).rename ρ := by
  have hdetail := h _ (.tail _ (.head _))
  have hsince := h _ (.tail _ (.tail _ (.head _)))
  rw [clusterState, (h _ (.head _)).optionalText_eq, hdetail.optionalText_eq,
    hsince.optionalText_eq]
  simp only [clusterState, Checked.rename_seq, Checked.rename_map]

theorem cluster_alike (h : ∀ f ∈ RecordKind.cluster.fields, Alike ρ ms ms' f) :
    cluster ms' = (cluster ms).rename ρ := by
  have hproject := h _ (.tail _ (.head _))
  have huuid := h _ (.tail _ (.tail _ (.head _)))
  have hlabels := h _ (.tail _ (.tail _ (.tail _ (.head _))))
  have hstate := h _ (.tail _ (.tail _ (.tail _ (.tail _ (.head _)))))
  have hsetup := h _ (.tail _ (.tail _ (.tail _ (.tail _ (.tail _ (.head _))))))
  rw [cluster, (h _ (.head _)).required_eq takes_none, hproject.optionalText_eq,
    huuid.optionalText_eq, hlabels.withDefault_eq OrderedMap.empty takes_none,
    hstate.withDefault_eq none (takes_nullable .state), hsetup.required_eq (takes_record .setup)]
  simp only [cluster, Checked.rename_seq, Checked.rename_map]

/-- Records whose fields are found alike are read alike. -/
theorem RecordKind.read_alike {r : RecordKind} (h : ∀ f ∈ r.fields, Alike ρ ms ms' f) :
    r.read ms' = (r.read ms).rename ρ := by
  cases r with
  | cluster => exact cluster_alike h
  | setup => exact clusterSetup_alike h
  | state => exact clusterState_alike h
  | group => exact nodeGroup_alike h

end Alike

/-! ## Responses that differ in one record -/

/-- New names for the faults of a response that differs at a place: faults on the way to the place
are those of the record there, seen from further out, and no other fault gets a new name. -/
structure AtPlace (ρ : List String → Fault → Fault) : Prop where
  inside : ∀ (key : String) (place : List String) (fault : Fault),
    ρ (key :: place) (fault.within (.key key)) = (ρ place fault).within (.key key)
  beside : ∀ (key other : String) (place : List String) (fault : Fault), other ≠ key →
    ρ (key :: place) (fault.within (.key other)) = fault.within (.key other)

theorem DifferAt.read_eq {R : RecordKind → Members → Members → Prop}
    {ρ : List String → Fault → Fault} (hρ : AtPlace ρ)
    (hR : ∀ {r ms ms'}, R r ms ms' → ∀ f ∈ r.fields, Alike (ρ []) ms ms' f) {r : RecordKind}
    {place : List String} {ms ms' : Members} (h : DifferAt R r place ms ms') :
    r.read ms' = (r.read ms).rename (ρ place) := by
  induction h with
  | here h => exact RecordKind.read_alike (hR h)
  | @inside r inner f key place ms ms' front back hf hfound hlast _ ih =>
    refine RecordKind.read_alike ?_
    rintro ⟨g, held⟩ hg
    rcases RecordKind.eq_or_apart hf hg with heq | hapart
    · cases heq
      exact .inside hfound (find?_replace hlast hfound) ih (hρ.inside key place)
    · -- another field is found as before, under a key of its own
      have hspells : ¬ g.Spells key := hapart.not_spells (spells_of_find? hfound)
      refine .of_find?_eq ?_ fun other hother fault => hρ.beside key other place fault ?_
      · rw [find?_insert_of_not_spells hspells, find?_insert_of_not_spells hspells]
      · rintro rfl
        exact hspells hother

/-! ## Idle edits -/

/-- An idle edit leaves all fields alike. -/
theorem Idle.alike {r : RecordKind} {ms ms' : Members} (h : Idle r.names ms ms')
    (f : FieldName × Option RecordKind) (hf : f ∈ r.fields) : Alike id ms ms' f :=
  .of_find?_eq (h.find?_eq r.apart (List.mem_map_of_mem hf)) fun _ _ _ => rfl

theorem atPlace_id : AtPlace fun _ => id where
  inside _ _ _ := rfl
  beside _ _ _ _ _ := rfl

theorem cluster_idle {place : List String} {ms ms' : Members}
    (h : DifferAt (fun r => Idle r.names) .cluster place ms ms') : cluster ms' = cluster ms :=
  (h.read_eq atPlace_id Idle.alike).trans (Checked.rename_id _)

/-! ## Respelling -/

/-- The path with the new spelling where it leads through the members of the record at a place. -/
def respellPath (old new : String) : List String → List PathStep → List PathStep
  | [], .key key :: path => .key (respell old new key) :: path
  | name :: place, .key key :: path =>
    .key key :: if key = name then respellPath old new place path else path
  | _, path => path

end Response

/-- The fault with the new spelling in its path. -/
def Fault.respell (old new : String) (place : List String) (f : Fault) : Fault :=
  { f with path := Response.respellPath old new place f.path }

namespace Response

theorem atPlace_respell (old new : String) : AtPlace (Fault.respell old new) where
  inside key place fault := by
    simp [Fault.respell, Fault.within, respellPath]
  beside key other place fault h := by
    simp [Fault.respell, Fault.within, respellPath, h]

/-- Respelling leaves all fields alike, up to the new spelling. -/
theorem Respelled.alike {old new : String} {r : RecordKind} {ms ms' : Members}
    (h : Respelled old new r.names ms ms') (f : FieldName × Option RecordKind)
    (hf : f ∈ r.fields) : Alike (Fault.respell old new []) ms ms' f := by
  obtain ⟨f, held⟩ := f
  have hmap := h.find?_eq r.apart (List.mem_map_of_mem hf)
  cases hfind : find? ms f with
  | some found =>
    rw [hfind] at hmap
    exact .same hfind hmap fun _ => rfl
  | none =>
    rw [hfind] at hmap
    -- a field that is missing is not the one that was respelled
    have hne : f.inResponse ≠ old := by
      rintro rfl
      obtain ⟨v, hv⟩ := h.occurs
      obtain ⟨w, hw⟩ := exists_last?_of_mem hv
      rw [find?, hw] at hfind
      cases hfind
    exact .missing hfind hmap (by simp [Fault.respell, respellPath, respell, hne])

theorem cluster_respelled {old new : String} {place : List String} {ms ms' : Members}
    (h : DifferAt (fun r => Respelled old new r.names) .cluster place ms ms') :
    cluster ms' = (cluster ms).rename (Fault.respell old new place) :=
  h.read_eq (atPlace_respell old new) Respelled.alike

end Response

namespace Operation

open Response

section Edited

variable {text text' : String} {ms ms' : Members}

/-- What a response may vary: an idle edit of a record in it does not matter, and respelling a key
matters only for the paths of the faults. -/
theorem readCluster_edited (h : Value.read? text = some (.object ms))
    (h' : Value.read? text' = some (.object ms')) :
    (∀ place, DifferAt (fun r => Idle r.names) .cluster place ms ms' →
      (∀ c, readCluster text' = .ok c ↔ readCluster text = .ok c) ∧
        details (readCluster text') = details (readCluster text)) ∧
    ∀ old new place, DifferAt (fun r => Respelled old new r.names) .cluster place ms ms' →
      (∀ c, readCluster text' = .ok c ↔ readCluster text = .ok c) ∧
        details (readCluster text') =
          (details (readCluster text)).map (Fault.respell old new place) := by
  have hone : one text = cluster ms := one_of_read? h
  have hone' : one text' = cluster ms' := one_of_read? h'
  simp only [readCluster_eq_ok_iff, details_readCluster, hone, hone']
  constructor
  · rintro place hdiffer
    rw [cluster_idle hdiffer]
    exact ⟨fun _ => Iff.rfl, rfl⟩
  · rintro old new place hdiffer
    rw [cluster_respelled hdiffer]
    exact ⟨fun _ => Checked.rename_eq_ok_iff, Checked.faults_rename _ _⟩

theorem differAt_setup {R : RecordKind → Members → Members → Prop} (h : R .setup ms ms') :
    DifferAt R .cluster ["config"] [("config", .object ms)] [("config", .object ms')] :=
  .inside [] [] (.tail _ (.tail _ (.tail _ (.tail _ (.tail _ (.head _)))))) rfl (by simp) (.here h)

theorem readCluster_edited_setup :
    details (readCluster
        "\x7b\"config\":\x7b\"config_bucket\":\"b\",\"configBucket\":1\x7d\x7d") =
      details (readCluster "\x7b\"config\":\x7b\"configBucket\":1\x7d\x7d") ∧
    details (readCluster "\x7b\"config\":\x7b\"config_bucket\":1\x7d\x7d") =
      [⟨.missing, [.key "clusterName"]⟩, ⟨.notText, [.key "config", .key "config_bucket"]⟩,
        ⟨.missing, [.key "config", .key "masterConfig"]⟩] := by
  have htext : Value.read? "\x7b\"config\":\x7b\"configBucket\":1\x7d\x7d" =
      some (.object [("config", .object [("configBucket", .integer 1)])]) := rfl
  have hshadowed : Value.read?
      "\x7b\"config\":\x7b\"config_bucket\":\"b\",\"configBucket\":1\x7d\x7d" =
      some (.object [("config",
        .object [("config_bucket", .text "b"), ("configBucket", .integer 1)])]) := rfl
  have hrespelled : Value.read? "\x7b\"config\":\x7b\"config_bucket\":1\x7d\x7d" =
      some (.object [("config", .object [("config_bucket", .integer 1)])]) := rfl
  constructor
  · refine ((readCluster_edited htext hshadowed).1 _ (differAt_setup ?_)).2
    exact .shadowed [] _ _ (.head _) (by decide) (.head _)
  · have hdiffer := (readCluster_edited htext hrespelled).2 "configBucket" "config_bucket" _
      (differAt_setup ⟨⟨_, .head _, .inl ⟨rfl, rfl⟩⟩, ⟨_, .head _⟩, by simp, rfl⟩)
    rw [hdiffer.2]
    decide +kernel

/-- A fault is reported under the spelling that stands in the text. -/
theorem respelled_moves_fault :
    let text := "\x7b\"clusterName\":1,\"config\":\x7b\"masterConfig\":\x7b\x7d\x7d\x7d"
    let respelled := "\x7b\"cluster_name\":1,\"config\":\x7b\"masterConfig\":\x7b\x7d\x7d\x7d"
    let config := ("config", Value.object [("masterConfig", .object [])])
    let ms := [("clusterName", .integer 1), config]
    let ms' := [("cluster_name", .integer 1), config]
    Value.read? text = some (.object ms) ∧ Value.read? respelled = some (.object ms') ∧
      DifferAt (fun r => Respelled "clusterName" "cluster_name" r.names) .cluster [] ms ms' ∧
      details (readCluster respelled) = [⟨.notText, [.key "cluster_name"]⟩] ∧
      details (readCluster respelled) ≠ details (readCluster text) := by
  refine ⟨by rfl, by rfl, .here ⟨⟨_, .head _, .inl ⟨rfl, rfl⟩⟩, ⟨_, .head _⟩, by simp, rfl⟩, ?_⟩
  decide +kernel

end Edited

end Operation

end ClusterPilot
